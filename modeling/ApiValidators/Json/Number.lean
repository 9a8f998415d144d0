import ApiValidators.Number.Binary64

/-!
# Numbers of a document

A number is a whole number of 64 bits or a finite binary64 number. `Number.text` is the spelling it has in answers and
in generated code.

A numeral is a sign, digits, and optionally places and an exponent. Its value is a whole number if it has neither places
nor exponent and 64 bits hold it. Otherwise it is a binary64 number: the leading digits that 64 bits hold, rounded, and
then multiplied or divided by a rounded power of ten. That is not always the nearest number.
-/

namespace ApiValidators

inductive Number where
  /-- A whole number from `-2 ^ 63` to `2 ^ 64 - 1`. -/
  | whole (n : Int)
  /-- Any other number, also one that was written with a point or an exponent. -/
  | double (x : Binary64)
  deriving Repr, DecidableEq

namespace Number

/-- Whole numbers that are kept exactly. -/
def inWholeRange (n : Int) : Bool := -0x8000000000000000 ≤ n && n < 0x10000000000000000

/-- How a binary64 number is laid out: which exponents of its leading digit are written positionally. -/
structure Layout where
  leastPositional : Int
  greatestPositional : Int

/-- Positional from `0.00001` to below `1e+16`. -/
def layout : Layout := ⟨-5, 15⟩

def digits (n : Nat) : List Char := Nat.toDigits 10 n

/-- A decimal with at least one place behind the point. `point` is the number of digits in front of it, which may be
negative or beyond the last digit. -/
def positional (ds : List Char) (point : Int) : List Char :=
  if point ≤ 0 then '0' :: '.' :: (List.replicate (-point).toNat '0' ++ ds)
  else
    let n := point.toNat
    if ds.length ≤ n then ds ++ List.replicate (n - ds.length) '0' ++ ['.', '0'] else ds.take n ++ '.' :: ds.drop n

/-- A decimal with one digit in front of the point, none behind it unless needed, and a signed exponent. -/
def scientific (ds : List Char) (exponent : Int) : List Char :=
  let mantissa := match ds with
    | d :: rest@(_ :: _) => d :: '.' :: rest
    | ds => ds
  mantissa ++ 'e' :: (if exponent < 0 then '-' else '+') :: digits exponent.natAbs

def doubleText (x : Binary64) : List Char :=
  let d := x.shortest
  let ds := digits d.digits
  let exponent := d.exponent + ds.length - 1
  let magnitude :=
    if layout.leastPositional ≤ exponent && exponent ≤ layout.greatestPositional then positional ds (exponent + 1)
    else scientific ds exponent
  if x.negative then '-' :: magnitude else magnitude

def wholeText (n : Int) : List Char := if n < 0 then '-' :: digits n.natAbs else digits n.natAbs

def text : Number → List Char
  | whole n => wholeText n
  | double x => doubleText x

end Number

/-! ## Numerals -/

/-- A numeral as it is written; digits are numbers below ten. -/
structure Numeral where
  negative : Bool := false
  whole : List Nat
  places : Option (List Nat) := none
  /-- Whether the exponent is negative, and its digits. -/
  exponent : Option (Bool × List Nat) := none
  deriving Repr, DecidableEq

namespace Numeral

/-- The number that digits continue, as long as it stays below `bound`, and the digits that are left over. -/
def absorb (bound : Nat) (n : Nat) : List Nat → Nat × List Nat
  | [] => (n, [])
  | d :: ds => if n * 10 + d < bound then absorb bound (n * 10 + d) ds else (n, d :: ds)

def digitBound : Nat := 0x10000000000000000

def exponentBound : Nat := 0x80000000

/-- `x * 10 ^ exponent`, in steps of at most `10 ^ 308`, each of them rounded; `none` when that is too large. -/
def scaleByTen : (steps : Nat) → Binary64 → (exponent : Int) → Option Binary64
  | 0, x, _ => some x
  | steps + 1, x, exponent =>
    if exponent.natAbs ≤ 308 then
      (Binary64.powerOfTen? exponent.natAbs).bind fun power =>
        if exponent ≥ 0 then x.scaleUp? power else x.scaleDown? power
    else if x.significand = 0 then some x
    else if exponent ≥ 0 then none
    else ((Binary64.powerOfTen? 308).bind x.scaleDown?).bind fun y => scaleByTen steps y (exponent + 308)

/-- The value `n * 10 ^ exponent` with a sign. Three steps take every `n` below `digitBound` to zero. -/
def double? (negative : Bool) (n : Nat) (exponent : Int) : Option Number :=
  (Binary64.ofNat? negative n).bind fun x => (scaleByTen 5 x exponent).map .double

/-- The value of a numeral; `none` when it is too large. -/
def value? (m : Numeral) : Option Number :=
  let (kept, dropped) := absorb digitBound 0 m.whole
  if m.places.isNone && m.exponent.isNone && dropped.isEmpty then
    let n : Int := if m.negative then -kept else kept
    if Number.inWholeRange n && !(m.negative && kept == 0) then some (.whole n) else double? m.negative kept 0
  else
    let places := m.places.getD []
    let (digits, beyond) := absorb digitBound kept places
    let shift : Int := (dropped.length : Int) - ((places.length - beyond.length : Nat) : Int)
    match m.exponent with
    | none => double? m.negative digits shift
    | some (down, ds) =>
      match absorb exponentBound 0 ds with
      | (e, []) => double? m.negative digits (if down then shift - e else shift + e)
      | _ => if digits == 0 || down then (Binary64.ofNat? m.negative 0).map .double else none

end Numeral

end ApiValidators
