/-!
# Places in a YAML text

Indentation decides much in YAML, so a reader keeps the column with the text that is left. Lines end in any of five
ways, and a carriage return with a line feed behind it is one end of a line.
-/

namespace ApiValidators.Yaml

/-- A place in a text: what is left of it, and where that starts. -/
structure Cursor where
  rest : List Char
  index : Nat := 0
  line : Nat := 0
  column : Nat := 0
  deriving Repr

def isBreak (c : Char) : Bool :=
  c == '\n' || c == '\r' || c.toNat == 0x85 || c.toNat == 0x2028 || c.toNat == 0x2029

def isBlank (c : Char) : Bool := c == ' ' || c == '\t'

/-- Whether a word cannot go on with a character. -/
def isGap (c : Char) : Bool := isBlank c || isBreak c

/-- Whether no word goes on here. -/
def atGap : List Char → Bool
  | [] => true
  | c :: _ => isGap c

def atLineEnd : List Char → Bool
  | [] => true
  | c :: _ => isBreak c

/-- What the end of a line is read as: the two separators of Unicode stay, all others are line feeds. -/
def breakText (c : Char) : Char := if c.toNat == 0x2028 || c.toNat == 0x2029 then c else '\n'

def isNameChar (c : Char) : Bool := c.isAlphanum || c == '_' || c == '-'

/-- The characters a YAML text may hold: tab, line ends, and what can be printed. -/
def isPrintable (c : Char) : Bool :=
  let n := c.toNat
  n == 0x09 || n == 0x0A || n == 0x0D || (0x20 ≤ n && n ≤ 0x7E) || n == 0x85 || (0xA0 ≤ n && n ≤ 0xD7FF) ||
    (0xE000 ≤ n && n ≤ 0xFFFD) || 0x10000 ≤ n

namespace Cursor

def peek (c : Cursor) : Option Char := c.rest.head?

def sees (c : Cursor) (ch : Char) : Bool := c.peek == some ch

/-- Behind the next `n` characters, none of which ends a line. -/
def advance (c : Cursor) (n : Nat) : Cursor :=
  { c with rest := c.rest.drop n, index := c.index + n, column := c.column + n }

def nextLine (c : Cursor) : Cursor :=
  match c.rest with
  | '\r' :: '\n' :: rest => ⟨rest, c.index + 2, c.line + 1, 0⟩
  | _ :: rest => ⟨rest, c.index + 1, c.line + 1, 0⟩
  | [] => c

/-- Behind the end of the line, if the line ends here. -/
def overBreak (c : Cursor) : Cursor := if c.peek.any isBreak then c.nextLine else c

/-- The characters of a class from here on, none of which ends a line, and what is behind them. -/
def span (c : Cursor) (p : Char → Bool) : List Char × Cursor :=
  let cs := c.rest.takeWhile p
  (cs, c.advance cs.length)

/-- Behind the characters of a class. -/
def skip (c : Cursor) (p : Char → Bool) : Cursor := (c.span p).2

def skipComment (c : Cursor) : Cursor := if c.sees '#' then c.skip fun ch => !isBreak ch else c

/-- Whether the three characters that start or end a document stand here as a word of their own. -/
def atMarker (c : Cursor) (mark : Char) : Bool :=
  c.column == 0 && c.rest.take 3 == [mark, mark, mark] && atGap (c.rest.drop 3)

def atDocumentBoundary (c : Cursor) : Bool := c.atMarker '-' || c.atMarker '.'

/-- The next token, past blanks, comments and line ends, within `steps` lines, and whether a simple key may start there.
A tab is only passed over where no simple key may start. -/
def toToken (inFlow : Bool) : (steps : Nat) → (keyAllowed : Bool) → Cursor → Cursor × Bool
  | 0, keyAllowed, c => (c, keyAllowed)
  | steps + 1, keyAllowed, c =>
    let c := if c.column == 0 && c.peek.any (·.toNat == 0xFEFF) then c.advance 1 else c
    let c := c.skip fun ch => ch == ' ' || ((inFlow || !keyAllowed) && ch == '\t')
    let c := c.skipComment
    if c.peek.any isBreak then toToken inFlow steps (keyAllowed || !inFlow) c.nextLine else (c, keyAllowed)

end Cursor

/-! ## Gaps in scalars -/

/-- Blanks and line ends between the words of a scalar. -/
structure Gap where
  /-- Blanks before the first end of a line. -/
  blanks : List Char := []
  /-- The first end of a line. -/
  first : List Char := []
  /-- All later ends of lines. -/
  more : List Char := []
  /-- Whether a line has ended. -/
  broken : Bool := false
  deriving Repr

namespace Gap

/-- What a gap is folded to: blanks stay, one end of a line is a blank, and the first of several is dropped. -/
def text (g : Gap) : List Char :=
  if !g.broken then g.blanks
  else if g.first == ['\n'] then (if g.more.isEmpty then [' '] else g.more)
  else g.first ++ g.more

/-- The gap from here on, of at most `length` characters. A tab that stands for indentation, left of `tabLimit`, is an
error. -/
def scan (tabLimit : Nat) : (length : Nat) → Gap → Cursor → Option (Gap × Cursor)
  | 0, g, c => some (g, c)
  | length + 1, g, c =>
    match c.peek with
    | none => some (g, c)
    | some ch =>
      if isBlank ch then
        if g.broken && c.column < tabLimit && ch == '\t' then none
        else scan tabLimit length (if g.broken then g else { g with blanks := g.blanks ++ [ch] }) (c.advance 1)
      else if isBreak ch then
        let g :=
          if g.broken then { g with more := g.more ++ [breakText ch] }
          else { g with blanks := [], first := [breakText ch], broken := true }
        scan tabLimit length g c.nextLine
      else some (g, c)

end Gap

end ApiValidators.Yaml
