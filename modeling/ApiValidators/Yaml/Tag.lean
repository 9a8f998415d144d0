import ApiValidators.Text.Quoted
import ApiValidators.Text.Utf8
import ApiValidators.Yaml.Cursor

/-!
# Tags, anchors and directives

A tag is a handle and a suffix; handles are abbreviations that directives declare. Tags may hold escaped bytes, so they
are bytes rather than text.
-/

namespace ApiValidators.Yaml

/-- A tag, or a part of one. -/
abbrev TagBytes := List UInt8

/-- A tag as it is written. An empty handle says that the suffix is the whole tag. -/
structure RawTag where
  handle : List Char
  suffix : TagBytes
  deriving Repr

namespace Tag

def ofAscii (text : List Char) : TagBytes := text.map fun c => UInt8.ofNat c.toNat

/-- Characters of tags, without escapes; the last three only in tags that are written out in full. -/
def isTagChar (full : Bool) (c : Char) : Bool :=
  isNameChar c || ";/?:@&=+$.!~*'()".toList.contains c || (full && (c == ',' || c == '[' || c == ']'))

/-- Number of bytes that follow the first byte of a character. -/
def following? (first : Nat) : Option Nat :=
  if first < 0x80 then some 0
  else if 0xC0 ≤ first && first < 0xE0 then some 1
  else if 0xE0 ≤ first && first < 0xF0 then some 2
  else if 0xF0 ≤ first && first < 0xF8 then some 3
  else none

/-- The characters of a tag from here on, and what follows. `pending` counts the escaped bytes that a character begun by
an earlier one still needs. -/
def chars? (full : Bool) : (pending : Nat) → List Char → Option (TagBytes × List Char)
  | pending, '%' :: a :: b :: rest => do
    let n ← Text.hexNumber? [some a, some b]
    let left ← match pending with
      | 0 => following? n
      | left + 1 => if 0x80 ≤ n && n < 0xC0 then some left else none
    let (bytes, rest) ← chars? full left rest
    some (UInt8.ofNat n :: bytes, rest)
  | 0, c :: rest =>
    if c == '%' then none
    else if isTagChar full c then (chars? full 0 rest).map fun (bytes, rest) => (UInt8.ofNat c.toNat :: bytes, rest)
    else some ([], c :: rest)
  | 0, [] => some ([], [])
  | _ + 1, _ => none

/-- The part of a tag from here on, behind `head`, of which an initial exclamation mark is dropped. A part must not be
empty, the mark included. -/
def part? (full : Bool) (head : List Char) (c : Cursor) : Option (TagBytes × Cursor) := do
  let (bytes, rest) ← chars? full 0 c.rest
  if head.isEmpty && bytes.isEmpty then none
  else some (ofAscii (head.drop 1) ++ bytes, c.advance (c.rest.length - rest.length))

/-- A handle, or what could be one: an exclamation mark, letters, and perhaps a second mark. -/
def handle? (c : Cursor) : Option (List Char × Cursor) :=
  if c.sees '!' then
    let (name, after) := (c.advance 1).span isNameChar
    if after.sees '!' then some ('!' :: (name ++ ['!']), after.advance 1) else some ('!' :: name, after)
  else none

def tag? (inFlow : Bool) (c : Cursor) : Option (RawTag × Cursor) := do
  let (tag, c) ←
    if c.rest[1]? == some '<' then do
      let (suffix, c) ← part? true [] (c.advance 2)
      if c.sees '>' then some (⟨[], suffix⟩, c.advance 1) else none
    else do
      let (handle, after) ← handle? c
      if handle.length ≥ 2 && handle.getLast? == some '!' then
        let (suffix, c) ← part? false [] after
        some (⟨handle, suffix⟩, c)
      else
        let (suffix, c) ← part? false handle after
        if suffix.isEmpty then some (⟨[], ofAscii ['!']⟩, c) else some (⟨['!'], suffix⟩, c)
  if atGap c.rest || (inFlow && c.sees ',') then some (tag, c) else none

end Tag

/-- The name behind an anchor's or alias's sign, which is here. -/
def anchorName? (c : Cursor) : Option (List Char × Cursor) :=
  let (name, c) := (c.advance 1).span isNameChar
  let ends (ch : Char) : Bool := "?:,]\x7d%@".toList.contains ch || ch.toNat == 0x60
  if !name.isEmpty && (atGap c.rest || c.peek.any ends) then some (name, c) else none

/-! ## Directives -/

/-- A directive: the version of the notation, or a handle and what it abbreviates. -/
inductive Directive where
  | version (major minor : Nat)
  | tag (handle : List Char) (expansion : TagBytes)
  deriving Repr

namespace Directive

def versionPart? (c : Cursor) : Option (Nat × Cursor) :=
  let (ds, c) := c.span Char.isDigit
  if ds.isEmpty || ds.length > 9 then none else some (ds.foldl (fun n d => n * 10 + (d.toNat - '0'.toNat)) 0, c)

def version? (c : Cursor) : Option (Directive × Cursor) := do
  let (major, c) ← versionPart? (c.skip isBlank)
  if !c.sees '.' then none
  let (minor, c) ← versionPart? (c.advance 1)
  some (version major minor, c)

def tag? (c : Cursor) : Option (Directive × Cursor) := do
  let (handle, c) ← Tag.handle? (c.skip isBlank)
  if handle != ['!'] && !(handle.length ≥ 2 && handle.getLast? == some '!') then none
  if !c.peek.any isBlank then none
  let (expansion, c) ← Tag.part? true [] (c.skip isBlank)
  if atGap c.rest then some (tag handle expansion, c) else none

/-- The directive whose sign is here, and the place behind its line. -/
def directive? (c : Cursor) : Option (Directive × Cursor) := do
  let (name, c) := (c.advance 1).span isNameChar
  if name.isEmpty || !atGap c.rest then none
  let (d, c) ←
    if name == "YAML".toList then version? c else if name == "TAG".toList then tag? c else none
  let c := (c.skip isBlank).skipComment
  if atLineEnd c.rest then some (d, c.overBreak) else none

end Directive

end ApiValidators.Yaml
