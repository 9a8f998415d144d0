import ApiValidators.Yaml.Cursor

/-!
# Block scalars

Indented text below a bar, which keeps line ends, or below a greater-than sign, which folds them. A header may fix the
indentation, and says what happens to the line ends behind the text.
-/

namespace ApiValidators.Yaml.Block

/-- What happens to the line ends behind the text: all go, the first stays, or all stay. -/
inductive Chomping where
  | strip
  | clip
  | keep
  deriving Repr, DecidableEq

structure Header where
  chomping : Chomping := .clip
  /-- How much deeper than its holder the text is indented, if given. -/
  increment : Option Nat := none
  deriving Repr

def chomping? (c : Cursor) : Option Chomping × Cursor :=
  match c.peek with
  | some '+' => (some .keep, c.advance 1)
  | some '-' => (some .strip, c.advance 1)
  | _ => (none, c)

/-- A digit here, if there is one; zero is an error. -/
def increment? (c : Cursor) : Option (Option Nat × Cursor) :=
  match c.peek with
  | some d =>
    if d == '0' then none
    else if d.isDigit then some (some (d.toNat - '0'.toNat), c.advance 1)
    else some (none, c)
  | none => some (none, c)

/-- The header that starts behind the sign of the scalar, and the place behind its line. Sign and digit come in either
order. -/
def header? (c : Cursor) : Option (Header × Cursor) := do
  let (first, c) := chomping? c
  let (increment, c) ← increment? c
  let (second, c) := if first.isNone && increment.isSome then chomping? c else (none, c)
  let c := (c.skip isBlank).skipComment
  if atLineEnd c.rest then some (⟨(first.or second).getD .clip, increment⟩, c.overBreak) else none

/-- Blank lines and indentation: the line ends from here on, at most `lines`, the place behind them, and the deepest
column met. While the indentation is not known every blank counts as indentation; a tab in it is an error. -/
def blankLines (indent : Option Nat) : (lines : Nat) → (deepest : Nat) → (ends : List Char) → Cursor →
    Option (List Char × Nat × Cursor)
  | 0, deepest, ends, c => some (ends, deepest, c)
  | lines + 1, deepest, ends, c =>
    let blanks := (c.rest.takeWhile (· == ' ')).length
    let c := c.advance (indent.elim blanks fun n => min blanks (n - c.column))
    let deepest := max deepest c.column
    if c.sees '\t' && indent.all (c.column < ·) then none
    else
      match c.peek with
      | some ch =>
        if isBreak ch then blankLines indent lines deepest (ends ++ [breakText ch]) c.nextLine
        else some (ends, deepest, c)
      | none => some (ends, deepest, c)

/-- The lines of the text, at most `lines`. `lineEnd` is the end of the last line, `ends` are those of the blank lines
behind it, and `wasBlank` tells whether the last line started with a blank. -/
def content (folded : Bool) (indent : Nat) : (lines : Nat) → (done lineEnd ends : List Char) → (wasBlank : Bool) →
    Cursor → Option (List Char × List Char × List Char × Cursor)
  | 0, done, lineEnd, ends, _, c => some (done, lineEnd, ends, c)
  | lines + 1, done, lineEnd, ends, wasBlank, c =>
    if c.column == indent && !c.rest.isEmpty then do
      let isBlank := c.peek.any Yaml.isBlank
      let glue :=
        if folded && lineEnd == ['\n'] && !wasBlank && !isBlank then (if ends.isEmpty then [' '] else [])
        else lineEnd
      let (line, c) := c.span fun ch => !isBreak ch
      let done := done ++ glue ++ ends ++ line
      let lineEnd := (c.peek.map breakText).toList
      let c := c.overBreak
      let (ends, _, c) ← blankLines (some indent) c.rest.length 0 [] c
      content folded indent lines done lineEnd ends isBlank c
    else some (done, lineEnd, ends, c)

/-- The block scalar whose sign is here. `holder` is the column of what holds it, `none` at the top. -/
def scalar? (folded : Bool) (holder : Option Nat) (c : Cursor) : Option (List Char × Cursor) := do
  let (header, c) ← header? (c.advance 1)
  let fixed := header.increment.map fun n => holder.getD 0 + n
  let (ends, deepest, c) ← blankLines fixed c.rest.length 0 [] c
  let least := holder.elim 0 (· + 1)
  let indent := fixed.getD (max (max deepest least) 1)
  let (text, lineEnd, ends, c) ← content folded indent (c.rest.length + 1) [] [] ends false c
  let tail := match header.chomping with
    | .strip => []
    | .clip => lineEnd
    | .keep => lineEnd ++ ends
  some (text ++ tail, c)

end ApiValidators.Yaml.Block
