/-!
# UTF-8

Bytes as characters. A byte that belongs to no character is kept in its place as `none`, so that a reader may pass over
it where the text does not matter.
-/

namespace ApiValidators.Text

def isContinuation (b : UInt8) : Bool := 0x80 ≤ b && b < 0xC0

/-- The character with a code point, if there is one and it is not below `least`. -/
def charOf? (least n : Nat) : Option Char :=
  if h : n.isValidChar then if least ≤ n then some (Char.ofNatAux n h) else none else none

/-- The number that continuation bytes add to: six bits each. -/
def continued (high : Nat) (bytes : List UInt8) : Nat := bytes.foldl (fun n b => n * 64 + b.toNat % 64) high

/-- A character of `more + 1` bytes whose first byte carries the bits `high`. -/
def longChar? (high more least : Nat) (rest : List UInt8) : Option (Char × Nat) :=
  let bytes := rest.take more
  if bytes.length = more ∧ bytes.all isContinuation then (charOf? least (continued high bytes)).map (·, more) else none

/-- The character at the start of the bytes, and how many bytes it has beside the first. -/
def firstChar? (first : UInt8) (rest : List UInt8) : Option (Char × Nat) :=
  let n := first.toNat
  if n < 0x80 then (charOf? 0 n).map (·, 0)
  else if 0xC0 ≤ n && n < 0xE0 then longChar? (n % 32) 1 0x80 rest
  else if 0xE0 ≤ n && n < 0xF0 then longChar? (n % 16) 2 0x800 rest
  else if 0xF0 ≤ n && n < 0xF8 then longChar? (n % 8) 3 0x10000 rest
  else none

/-- The characters of bytes, of which the first `skip` belong to a character already seen. -/
def decodeFrom : (skip : Nat) → List UInt8 → List (Option Char)
  | _, [] => []
  | skip + 1, _ :: rest => decodeFrom skip rest
  | 0, b :: rest =>
    match firstChar? b rest with
    | some (c, more) => some c :: decodeFrom more rest
    | none => none :: decodeFrom 0 rest

/-- The characters of bytes, with `none` for each byte that belongs to none. -/
def decodeUtf8 (bytes : List UInt8) : List (Option Char) := decodeFrom 0 bytes

/-- The text that bytes stand for, if every byte belongs to a character. -/
def ofUtf8? (bytes : List UInt8) : Option (List Char) := (decodeUtf8 bytes).mapM id

def toUtf8 (text : List Char) : List UInt8 := (String.ofList text).toUTF8.data.toList

end ApiValidators.Text
