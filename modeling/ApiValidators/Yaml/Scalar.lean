import ApiValidators.Json.Text
import ApiValidators.Source.Tree
import ApiValidators.Yaml.Tag

/-!
# Meaning of scalars

A scalar is text, and text it stays where text is expected. Elsewhere a plain one is null, a boolean or a number if it
is spelt like one, unless a tag says what it is.
-/

namespace ApiValidators.Yaml

structure Scalar where
  text : List Char := []
  /-- Whether it was written without quotes. -/
  plain : Bool := true
  tag : Option TagBytes := none
  deriving Repr

namespace Tag

/-- The tag of a type that the notation knows. -/
def core (name : String) : TagBytes := ofAscii ("tag:yaml.org,2002:" ++ name).toList

/-- Whether a tag is local: it starts with an exclamation mark and can be read. -/
def isLocal (tag : TagBytes) : Bool := tag.head? == some 0x21 && (Text.ofUtf8? tag).isSome

end Tag

namespace Scalar

/-! ## Spellings -/

def isNull (text : List Char) : Bool := ["null", "Null", "NULL", "~"].contains (String.ofList text)

def bool? (text : List Char) : Option Bool :=
  let s := String.ofList text
  if ["true", "True", "TRUE"].contains s then some true
  else if ["false", "False", "FALSE"].contains s then some false
  else none

def afterSign (text : List Char) : List Char :=
  match text with
  | '+' :: rest | '-' :: rest => rest
  | _ => text

/-- Whether the text is a zero with more digits behind it, which is no number. -/
def isZeroFilled (text : List Char) : Bool :=
  match afterSign text with
  | '0' :: rest => !rest.isEmpty && rest.all Char.isDigit
  | _ => false

/-- The value of digits, of which there must be one. -/
def natural? (base : Nat) (digits : List Char) : Option Nat :=
  if digits.isEmpty then none
  else digits.foldlM (fun n c => ((Text.hexValue? c).filter (· < base)).map (n * base + ·)) 0

/-- The base that a whole number starts with, and its digits. -/
def based? : List Char → Option (Nat × List Char)
  | '0' :: 'x' :: rest => some (16, rest)
  | '0' :: 'o' :: rest => some (8, rest)
  | '0' :: 'b' :: rest => some (2, rest)
  | _ => none

/-- The size of a whole number without its sign. `zeroFilled` tells that it is no decimal. -/
def magnitude? (zeroFilled : Bool) (text : List Char) : Option Nat :=
  match based? text with
  | some (base, digits) => natural? base digits
  | none => if zeroFilled then none else natural? 10 text

/-- How many numbers a number of bits can tell apart. -/
def bits (n : Nat) : Nat := Nat.pow 2 n

/-- The content of a whole number; `some none` when it needs more than 64 bits but not more than 128. -/
def whole? (text : List Char) : Option (Option Content) :=
  match text with
  | '-' :: rest => do
    let n ← magnitude? (isZeroFilled text) rest
    if n ≤ bits 63 then some (some (.signed (-n))) else if n ≤ bits 127 then some none else none
  | _ => do
    let n ← magnitude? (isZeroFilled text) (if text.head? == some '+' then text.drop 1 else text)
    if n < bits 64 then some (some (.unsigned n)) else if n < bits 128 then some none else none

/-! ## Decimals -/

def decimal (digits : List Nat) : Nat := digits.foldl (fun n d => n * 10 + d) 0

/-- No binary64 number has a power of ten beyond this one. -/
def exponentLimit : Nat := 400

/-- `digits * 10 ^ exponent`, rounded to the nearest binary64 number. -/
def nearest? (negative : Bool) (digits : List Nat) (exponent : Int) : Option Binary64 :=
  let digits := digits.dropWhile (· == 0)
  let size : Int := digits.length + exponent
  if digits.isEmpty || size < -exponentLimit then some (Binary64.zero negative)
  else if size > exponentLimit then none
  else if exponent ≥ 0 then Binary64.ofRatio? negative (decimal digits * Nat.pow 10 exponent.toNat) 1
  else Binary64.ofRatio? negative (decimal digits) (Nat.pow 10 (-exponent).toNat)

/-- The places behind a point, if there is one; there may be none at all. -/
def readPlaces : Json.Input → List Nat × Json.Input
  | some '.' :: rest => Json.readDigits rest
  | input => ([], input)

/-- The value of a decimal with a sign, places and an exponent, all of which may be missing. -/
def decimal? (text : List Char) : Option Binary64 := do
  let (negative, input) := Json.readSign (text.map some)
  let (whole, input) := Json.readDigits input
  let (places, input) := readPlaces input
  if whole.isEmpty && places.isEmpty then none
  let (exponent, input) ← Json.readExponent? input
  if !input.isEmpty then none
  let shift : Int := exponent.elim 0 fun (down, ds) => if down then -decimal ds else decimal ds
  nearest? negative (whole ++ places) (shift - places.length)

/-- The content of a number that need not be whole. -/
def double? (text : List Char) : Option Content :=
  let unsigned := if text.head? == some '+' then text.drop 1 else text
  let isName (names : List String) (cs : List Char) : Bool := names.contains (String.ofList cs)
  if isName [".inf", ".Inf", ".INF"] unsigned || isName ["-.inf", "-.Inf", "-.INF", ".nan", ".NaN", ".NAN"] text then
    some .notFinite
  else if text.head? == some '+' && (unsigned.head? == some '+' || unsigned.head? == some '-') then none
  else (decimal? unsigned).map .double

/-! ## Content -/

def textContent (text : List Char) : Content := .text (String.ofList text)

/-- The content of a plain scalar without a tag. -/
def plainContent? (text : List Char) : Option Content :=
  if text.isEmpty || isNull text then some .null
  else
    match bool? text, whole? text with
    | some b, _ => some (.bool b)
    | none, some found => found
    | none, none =>
      if isZeroFilled text then some (textContent text) else some ((double? text).getD (textContent text))

/-- The content of a scalar, if it can stand for any value. -/
def content? (s : Scalar) : Option Content :=
  match s.tag with
  | none => if s.plain then plainContent? s.text else some (textContent s.text)
  | some tag =>
    if Tag.isLocal tag then none
    else if tag == Tag.core "bool" then (bool? s.text).map .bool
    else if tag == Tag.core "int" then (whole? s.text).join
    else if tag == Tag.core "float" then double? s.text
    else if tag == Tag.core "null" then if isNull s.text then some .null else none
    else if tag.head? == some 0x21 && s.plain then plainContent? s.text
    else some (textContent s.text)

/-- Whether the scalar says that there is no value; `none` if it can say neither. -/
def absent? (s : Scalar) : Option Bool :=
  if !s.plain then some false
  else
    match s.tag with
    | none => some (s.text.isEmpty || isNull s.text)
    | some tag => if tag != Tag.core "null" then some false else if isNull s.text then some true else none

/-- The scalar in each of the places where it may stand. -/
def leaf (s : Scalar) : Leaf where
  text := some (String.ofList s.text)
  absent := s.absent?
  blank := s.plain && s.text.isEmpty
  content := s.content?

end Scalar

end ApiValidators.Yaml
