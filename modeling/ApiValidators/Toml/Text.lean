import ApiValidators.Entries
import ApiValidators.Text.Quoted

/-!
# TOML text as a table

A text is read line by line. Values are strings, flags, lists and tables; numbers and dates are not among them, as no
setting has one.

Strings stand in double quotes, in which a backslash escapes, or in single quotes, in which nothing does; three quotes
enclose text of several lines. Tables are built up line by line: a header opens one, and may imply tables around it; a
dotted key makes tables on its way. What has been defined once cannot be defined again, and a table in braces cannot be
added to.
-/

namespace ApiValidators.Toml

/-! ## Strings -/

def isBlank (c : Char) : Bool := c == ' ' || c == '\t'

/-- The characters a line may hold: no control characters but the tab. -/
def isLineChar (c : Char) : Bool := c == '\t' || (0x20 ≤ c.toNat && c.toNat ≠ 0x7F)

/-- What follows the end of a line, if one is here. -/
def afterBreak? : List Char → Option (List Char)
  | '\n' :: rest => some rest
  | '\r' :: '\n' :: rest => some rest
  | _ => none

namespace Quoted

/-- The character that is escaped, given what stands behind the backslash, and what follows it. -/
def escape? : List Char → Option (Char × List Char)
  | 'b' :: rest => some (Char.ofNat 0x08, rest)
  | 't' :: rest => some ('\t', rest)
  | 'n' :: rest => some ('\n', rest)
  | 'f' :: rest => some (Char.ofNat 0x0C, rest)
  | 'r' :: rest => some ('\r', rest)
  | 'e' :: rest => some (Char.ofNat 0x1B, rest)
  | '"' :: rest => some ('"', rest)
  | '\\' :: rest => some ('\\', rest)
  | 'x' :: a :: b :: rest => (Text.coded? [a, b]).map (·, rest)
  | 'u' :: a :: b :: c :: d :: rest => (Text.coded? [a, b, c, d]).map (·, rest)
  | 'U' :: a :: b :: c :: d :: e :: f :: g :: h :: rest => (Text.coded? [a, b, c, d, e, f, g, h]).map (·, rest)
  | _ => none

/-- What follows blanks and line ends. -/
def overWhite : List Char → List Char
  | '\r' :: '\n' :: rest => overWhite rest
  | c :: rest => if isBlank c || c == '\n' then overWhite rest else c :: rest
  | [] => []

/-- What follows a backslash at the end of a line: blanks and line ends are passed over. -/
def overLines? (rest : List Char) : Option (List Char) := (afterBreak? (rest.dropWhile isBlank)).map overWhite

/-- The closing quotes, if they are here: quotes in front of them that are still text, and what follows. -/
def closing? (quote : Char) (lines : Bool) (cs : List Char) : Option (List Char × List Char) :=
  let found := (cs.takeWhile (· == quote)).length
  if lines then
    if found < 3 then none else some (List.replicate (min (found - 3) 2) quote, cs.drop (min found 5))
  else if found = 0 then none
  else some ([], cs.drop 1)

/-- The text up to the closing quotes, of at most `length` characters, and what follows them. `lines` tells whether
it may have several lines. -/
def body (quote : Char) (lines : Bool) : (length : Nat) → List Char → Option (List Char × List Char)
  | 0, _ => none
  | length + 1, cs =>
    match closing? quote lines cs, cs with
    | some found, _ => some found
    | none, [] => none
    | none, c :: rest =>
      if c == '\\' && quote == '"' then
        match if lines then overLines? rest else none with
        | some rest => body quote lines length rest
        | none => do
          let (e, rest) ← escape? rest
          let (text, rest) ← body quote lines length rest
          some (e :: text, rest)
      else if isLineChar c || (lines && (afterBreak? (c :: rest)).isSome) then
        (body quote lines length rest).map fun (text, rest) => (c :: text, rest)
      else none

/-- A string whose quotes are of a kind, if one is here. Of several lines the first is passed over if it is empty. -/
def quotedBy? (quote : Char) (manyLines : Bool) (cs : List Char) : Option (List Char × List Char) :=
  if manyLines && [quote, quote, quote].isPrefixOf cs then
    let rest := cs.drop 3
    body quote true (cs.length + 1) ((afterBreak? rest).getD rest)
  else if cs.head? == some quote then body quote false (cs.length + 1) (cs.drop 1)
  else none

def string? (manyLines : Bool) (cs : List Char) : Option (List Char × List Char) :=
  if cs.head? == some '"' then quotedBy? '"' manyLines cs else quotedBy? '\'' manyLines cs

end Quoted

/-! ## Tables -/

/-- How a table came about. -/
inductive Origin where
  | header
  /-- From the header of a table within it. -/
  | implied
  | dotted
  | braces
  deriving Repr, DecidableEq

inductive Value where
  | text (s : String)
  | bool (b : Bool)
  | list (items : List Value)
  | table (origin : Origin) (members : List (String × Value))
  /-- Tables that share their header. -/
  | tables (each : List (List (String × Value)))
  deriving Repr, Inhabited

abbrev Members := List (String × Value)

namespace Members

/-- The members with a value added under a dotted key, which must be new. -/
def assign (v : Value) : (key : List String) → Members → Option Members
  | [], _ => none
  | [name], ms => if (Entries.get? name ms).isSome then none else some (Entries.insert name v ms)
  | name :: rest, ms =>
    match Entries.get? name ms with
    | none => (assign v rest []).map fun inner => Entries.insert name (.table .dotted inner) ms
    | some (.table .dotted inner) =>
      (assign v rest inner).map fun inner => Entries.insert name (.table .dotted inner) ms
    | some _ => none

/-- The members with the table of a header changed. Of tables that share a header it is the last one. -/
def change (f : Members → Option Members) : (header : List String) → Members → Option Members
  | [], ms => f ms
  | name :: rest, ms =>
    match Entries.get? name ms with
    | none => (change f rest []).map fun inner => Entries.insert name (.table .implied inner) ms
    | some (.table origin inner) =>
      if origin = .braces then none
      else (change f rest inner).map fun inner => Entries.insert name (.table origin inner) ms
    | some (.tables each) =>
      match each.reverse with
      | last :: before =>
        (change f rest last).map fun inner => Entries.insert name (.tables (before.reverse ++ [inner])) ms
      | [] => none
    | some _ => none

/-- The members with a table opened by its header. Only a table that was implied may be there already. -/
def openTable (header : List String) (ms : Members) : Option Members := do
  let name ← header.getLast?
  change (fun ms =>
    match Entries.get? name ms with
    | none => some (Entries.insert name (.table .header []) ms)
    | some (.table .implied inner) => some (Entries.insert name (.table .header inner) ms)
    | some _ => none) header.dropLast ms

/-- The members with one more table under a header that tables share. -/
def addTable (header : List String) (ms : Members) : Option Members := do
  let name ← header.getLast?
  change (fun ms =>
    match Entries.get? name ms with
    | none => some (Entries.insert name (.tables [[]]) ms)
    | some (.tables each) => some (Entries.insert name (.tables (each ++ [[]])) ms)
    | some _ => none) header.dropLast ms

end Members

/-! ## Between the signs -/

def overBlanks (cs : List Char) : List Char := cs.dropWhile isBlank

def overComment (cs : List Char) : List Char := if cs.head? == some '#' then cs.dropWhile isLineChar else cs

/-- What follows the end of the line, which must be here but for blanks and a comment. -/
def lineEnd? (cs : List Char) : Option (List Char) :=
  let cs := overComment (overBlanks cs)
  if cs.isEmpty then some [] else afterBreak? cs

/-- What follows a sign, which must be here but for blanks. -/
def sign? (sign : List Char) (cs : List Char) : Option (List Char) :=
  let cs := overBlanks cs
  if sign.isPrefixOf cs then some (cs.drop sign.length) else none

/-- What follows blanks, comments and line ends, of which there are at most `lines`. -/
def overLines : (lines : Nat) → List Char → Option (List Char)
  | 0, _ => none
  | lines + 1, cs =>
    let cs := overBlanks cs
    if cs.head? == some '#' || (afterBreak? cs).isSome then (lineEnd? cs).bind (overLines lines) else some cs

/-- What follows blanks, comments and line ends. -/
def overGap (cs : List Char) : Option (List Char) := overLines (cs.length + 1) cs

/-! ## Keys -/

def isNameChar (c : Char) : Bool := c.isAlphanum || c == '_' || c == '-'

def name? (cs : List Char) : Option (String × List Char) :=
  let cs := overBlanks cs
  match Quoted.string? false cs with
  | some (text, rest) => some (String.ofList text, rest)
  | none =>
    let text := cs.takeWhile isNameChar
    if text.isEmpty then none else some (String.ofList text, cs.drop text.length)

/-- Names with dots between them, at most `names`. -/
def dottedKey : (names : Nat) → List Char → Option (List String × List Char)
  | 0, _ => none
  | names + 1, cs => do
    let (name, rest) ← name? cs
    match sign? ['.'] rest with
    | none => some ([name], rest)
    | some rest =>
      let (more, rest) ← dottedKey names rest
      some (name :: more, rest)

/-- Names with dots between them. -/
def key? (cs : List Char) : Option (List String × List Char) := dottedKey (cs.length + 1) cs

/-! ## Values -/

def bool? (cs : List Char) : Option (Bool × List Char) :=
  match sign? "true".toList cs with
  | some rest => some (true, rest)
  | none => (sign? "false".toList cs).map (false, ·)

mutual

/-- A value; `fuel` bounds the steps. -/
def value : (fuel : Nat) → List Char → Option (Value × List Char)
  | 0, _ => none
  | fuel + 1, cs =>
    let cs := overBlanks cs
    match sign? ['['] cs, sign? ['\x7b'] cs with
    | some rest, _ => (items fuel rest).map fun (vs, rest) => (.list vs, rest)
    | none, some rest => (members fuel [] rest).map fun (ms, rest) => (.table .braces ms, rest)
    | none, none =>
      match bool? cs with
      | some (b, rest) => some (.bool b, rest)
      | none => (Quoted.string? true cs).map fun (text, rest) => (.text (String.ofList text), rest)

def items : (fuel : Nat) → List Char → Option (List Value × List Char)
  | 0, _ => none
  | fuel + 1, cs => do
    let cs ← overGap cs
    match sign? [']'] cs with
    | some rest => some ([], rest)
    | none =>
      let (v, rest) ← value fuel cs
      let rest ← overGap rest
      match sign? [','] rest with
      | some rest => (items fuel rest).map fun (vs, rest) => (v :: vs, rest)
      | none => (sign? [']'] rest).map ([v], ·)

/-- The rest of a table in braces; `done` are the members read so far. -/
def members : (fuel : Nat) → (done : Members) → List Char → Option (Members × List Char)
  | 0, _, _ => none
  | fuel + 1, done, cs => do
    let cs ← overGap cs
    match sign? ['\x7d'] cs with
    | some rest => some (done, rest)
    | none =>
      let (key, rest) ← key? cs
      let (v, rest) ← value fuel (← sign? ['='] rest)
      let done ← done.assign v key
      let rest ← overGap rest
      match sign? [','] rest with
      | some rest => members fuel done rest
      | none => (sign? ['\x7d'] rest).map (done, ·)

end

/-! ## Lines -/

/-- The table that is open, and the members of the root. -/
structure Progress where
  header : List String := []
  root : Members := []

/-- A header of a table: the table is open then. -/
def header? (opening closing : List Char) (add : List String → Members → Option Members) (p : Progress)
    (cs : List Char) : Option (Progress × List Char) := do
  let (header, rest) ← key? (← sign? opening cs)
  let rest ← sign? closing rest
  some (⟨header, ← add header p.root⟩, rest)

/-- A key and its value, which the open table gets. -/
def member? (p : Progress) (cs : List Char) : Option (Progress × List Char) := do
  let (key, rest) ← key? cs
  let (v, rest) ← value (cs.length + 1) (← sign? ['='] rest)
  some ({ p with root := ← p.root.change (Members.assign v key) p.header }, rest)

def line? (p : Progress) (cs : List Char) : Option (Progress × List Char) :=
  if (sign? ['[', '['] cs).isSome then header? ['[', '['] [']', ']'] Members.addTable p cs
  else if (sign? ['['] cs).isSome then header? ['['] [']'] Members.openTable p cs
  else member? p cs

/-- All lines from here on, at most `lines` of them. -/
def linesFrom : (lines : Nat) → Progress → List Char → Option Members
  | 0, _, _ => none
  | lines + 1, p, cs => do
    let cs ← overGap cs
    if cs.isEmpty then some p.root
    else
      let (p, rest) ← line? p cs
      linesFrom lines p (← lineEnd? rest)

/-- The members of the root, if the text is TOML with these values. A byte order mark in front is passed over. -/
def parse? (text : List Char) : Option Members :=
  linesFrom (text.length + 1) {} (if text.head?.any (·.toNat == 0xFEFF) then text.drop 1 else text)

end ApiValidators.Toml
