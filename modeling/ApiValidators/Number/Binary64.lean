/-!
# Binary64 numbers

Finite numbers of the binary64 format as sign, significand and power of two, with rounding, multiplication and
division in exact natural arithmetic. `ofRatio?` is the number nearest to a quotient, a tie going to the even
significand, and nothing when that is out of range.

`shortest` is the decimal with the fewest digits that a number is the nearest one to; of several, the nearest to the
number itself. The search takes one digit, two digits, and so on, and looks at the two neighbours of the number on each
grid.
-/

namespace ApiValidators

/-- The finite number `±significand * 2 ^ exponent`, written in the one way the format has for it. -/
structure Binary64 where
  negative : Bool
  significand : Nat
  exponent : Int
  inRange : significand < 0x20000000000000 ∧ -1074 ≤ exponent ∧ exponent ≤ 971
  canonical : 0x10000000000000 ≤ significand ∨ exponent = -1074
  deriving Repr, DecidableEq

namespace Binary64

def zero (negative : Bool) : Binary64 := ⟨negative, 0, -1074, by decide, by decide⟩

/-- The number with the given parts, if the format has it. -/
def ofParts? (negative : Bool) (significand : Nat) (exponent : Int) : Option Binary64 :=
  if h : (significand < 0x20000000000000 ∧ -1074 ≤ exponent ∧ exponent ≤ 971) ∧
      (0x10000000000000 ≤ significand ∨ exponent = -1074) then
    some ⟨negative, significand, exponent, h.1, h.2⟩
  else none

/-- The quotient rounded to a whole number, a tie going to the even one. -/
def roundDiv (num den : Nat) : Nat :=
  let q := num / den
  let r := num % den
  if 2 * r > den || (2 * r == den && q % 2 == 1) then q + 1 else q

/-- `num / den` divided by `2 ^ exponent`, as numerator and denominator. -/
def scale (num den : Nat) (exponent : Int) : Nat × Nat :=
  if exponent ≥ 0 then (num, den <<< exponent.toNat) else (num <<< (-exponent).toNat, den)

/-- The exponent in whose unit `num / den` has 53 significant bits, but never below that of the smallest numbers. -/
def unitOf (num den : Nat) : Int :=
  let guess := (num.log2 : Int) - den.log2 - 53
  let (n, d) := scale num den guess
  max (-1074) (if n / d ≥ 0x20000000000000 then guess + 1 else guess)

/-- The number nearest to `num / den`, a tie going to the even significand; `none` when that is too large. -/
def ofRatio? (negative : Bool) (num den : Nat) : Option Binary64 :=
  if num = 0 then some (zero negative)
  else
    let unit := unitOf num den
    let (n, d) := scale num den unit
    let m := roundDiv n d
    if m = 0x20000000000000 then ofParts? negative 0x10000000000000 (unit + 1) else ofParts? negative m unit

def ofNat? (negative : Bool) (n : Nat) : Option Binary64 := ofRatio? negative n 1

/-- The magnitude as an exact quotient. -/
def ratio (x : Binary64) : Nat × Nat :=
  if x.exponent ≥ 0 then (x.significand <<< x.exponent.toNat, 1) else (x.significand, 1 <<< (-x.exponent).toNat)

/-- The product, rounded; the sign is that of `x`. -/
def scaleUp? (x : Binary64) (factor : Binary64) : Option Binary64 :=
  let (n, d) := x.ratio
  let (a, b) := factor.ratio
  ofRatio? x.negative (n * a) (d * b)

/-- The quotient, rounded; the sign is that of `x`. -/
def scaleDown? (x : Binary64) (divisor : Binary64) : Option Binary64 :=
  let (n, d) := x.ratio
  let (a, b) := divisor.ratio
  ofRatio? x.negative (n * b) (d * a)

/-- The number nearest to a power of ten; there is one up to `10 ^ 308`. -/
def powerOfTen? (k : Nat) : Option Binary64 := ofNat? false (Nat.pow 10 k)

/-! ## Shortest decimals -/

structure Decimal where
  digits : Nat
  exponent : Int
  deriving Repr, DecidableEq

/-- `10 ^ k` for any whole `k`, as numerator and denominator. -/
def tenTo (k : Int) : Nat × Nat := if k ≥ 0 then (Nat.pow 10 k.toNat, 1) else (1, Nat.pow 10 (-k).toNat)

/-- Number of decimal digits; zero has none. -/
def digitCount (n : Nat) : Nat := if n = 0 then 0 else (Nat.toDigits 10 n).length

/-- The position of the leading digit of `num / den`: the `k` with `10 ^ k ≤ num / den < 10 ^ (k + 1)`. -/
def leadingPlace (num den : Nat) : Int :=
  let guess : Int := (digitCount num : Int) - digitCount den
  let (a, b) := tenTo guess
  if num * b ≥ den * a then guess else guess - 1

/-- The reals that round to a number, in quarters of its unit, and whether the two ends belong to them. -/
structure Interval where
  low : Nat
  high : Nat
  closed : Bool
  deriving Repr, DecidableEq

/-- The interval of a number. Below a power of two the gap is half as wide. -/
def interval (x : Binary64) : Interval :=
  let m := x.significand
  ⟨if m = 0x10000000000000 ∧ x.exponent ≠ -1074 then 4 * m - 1 else 4 * m - 2, 4 * m + 2, m % 2 == 0⟩

/-- Whether `num / den`, counted in quarters of the unit, lies in the interval. -/
def Interval.holds (i : Interval) (num den : Nat) : Bool :=
  if i.closed then i.low * den ≤ num && num ≤ i.high * den else i.low * den < num && num < i.high * den

/-- `n` without its trailing zeros, each counted into the exponent. -/
def dropZeros : (places : Nat) → Nat → Int → Decimal
  | 0, n, e => ⟨n, e⟩
  | places + 1, n, e => if n % 10 = 0 then dropZeros places (n / 10) (e + 1) else ⟨n, e⟩

/-- The better neighbour of a non-zero number on the grid of `10 ^ place`, if one rounds to the number. -/
def onGrid? (x : Binary64) (place : Int) : Option Nat :=
  let i := x.interval
  -- a grid point `c` is `c * up / down` quarters of the unit
  let (tu, td) := tenTo place
  let quarter := x.exponent - 2
  let (up, down) := if quarter ≥ 0 then (tu, td <<< quarter.toNat) else (tu <<< (-quarter).toNat, td)
  let value := 4 * x.significand * down
  let c := value / up
  let below := i.holds (c * up) down
  let above := i.holds ((c + 1) * up) down
  if below && above then
    let left := value - c * up
    let right := (c + 1) * up - value
    some (if left < right || (left == right && c % 2 == 0) then c else c + 1)
  else if below then some c
  else if above then some (c + 1)
  else none

/-- The first grid, from `digits` significant digits on, that has a point for the number. -/
def shortestFrom (x : Binary64) (lead : Int) : (tries : Nat) → (digits : Nat) → Decimal
  | 0, _ => ⟨x.significand, 0⟩
  | tries + 1, digits =>
    let place := lead - digits + 1
    match x.onGrid? place with
    | some c => dropZeros (digitCount c) c place
    | none => shortestFrom x lead tries (digits + 1)

/-- The shortest decimal of a number; seventeen digits always suffice. -/
def shortest (x : Binary64) : Decimal :=
  if x.significand = 0 then ⟨0, 0⟩
  else
    let (n, d) := x.ratio
    shortestFrom x (leadingPlace n d) 17 1

end Binary64

end ApiValidators
