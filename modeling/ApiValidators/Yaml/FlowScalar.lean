import ApiValidators.Text.Quoted
import ApiValidators.Yaml.Cursor

/-!
# Plain and quoted scalars

A plain scalar is text without quotes. It goes on over several lines as long as they are indented deeper than what holds
it, and ends at a colon before a gap, at a comment, and, within brackets, at the signs of collections. A quoted scalar
is text in single quotes, in which a quote is written twice, or in double quotes, in which a backslash escapes. Gaps are
folded in all of them.
-/

namespace ApiValidators.Yaml.Plain

def isFlowSign (c : Char) : Bool := c == ',' || c == '[' || c == ']' || c == '\x7b' || c == '\x7d'

/-- The characters up to the next gap or the end of the scalar. Within brackets a colon before a sign is an error. -/
def word? (inFlow : Bool) : List Char → Option (List Char)
  | [] => some []
  | c :: rest =>
    if isGap c then some []
    else if inFlow && c == ':' && rest.head?.any (fun d => isFlowSign d || d == '?') then none
    else if (c == ':' && atGap rest) || (inFlow && isFlowSign c) then some []
    else (word? inFlow rest).map (c :: ·)

/-- The scalar from here on, of at most `words` words: the text read so far is `done`, and `gap` stands between it and
what follows. The answer tells whether a line has ended behind the last word. -/
def scan (inFlow : Bool) (indent : Nat) : (words : Nat) → (done : List Char) → Gap → Cursor →
    Option (List Char × Bool × Cursor)
  | 0, _, _, _ => none
  | words + 1, done, gap, c =>
    if c.atDocumentBoundary || c.sees '#' then some (done, gap.broken, c)
    else do
      let word ← word? inFlow c.rest
      if word.isEmpty then some (done, gap.broken, c)
      else
        let done := done ++ gap.text ++ word
        let c := c.advance word.length
        if c.peek.any isGap then
          let (gap, c) ← Gap.scan indent c.rest.length {} c
          if !inFlow && c.column < indent then some (done, gap.broken, c) else scan inFlow indent words done gap c
        else some (done, false, c)

def scalar? (inFlow : Bool) (indent : Nat) (c : Cursor) : Option (List Char × Bool × Cursor) :=
  scan inFlow indent (c.rest.length + 1) [] {} c

end ApiValidators.Yaml.Plain

namespace ApiValidators.Yaml.Quoted

/-- What stops a run of characters. -/
inductive Stop where
  | quote
  | gap
  /-- A backslash at the end of a line. -/
  | escapedBreak
  deriving Repr, DecidableEq

/-- A run of characters: its text, how many characters it was written with, and what stops it. -/
structure Run where
  text : List Char
  width : Nat
  stop : Stop

def Run.after (cs : List Char) (width : Nat) (r : Run) : Run :=
  { r with text := cs ++ r.text, width := width + r.width }

/-- The character that a letter after a backslash stands for. -/
def escape? : Char → Option Char
  | '0' => some (Char.ofNat 0)
  | 'a' => some (Char.ofNat 0x07)
  | 'b' => some (Char.ofNat 0x08)
  | 't' => some '\t'
  | '\t' => some '\t'
  | 'n' => some '\n'
  | 'v' => some (Char.ofNat 0x0B)
  | 'f' => some (Char.ofNat 0x0C)
  | 'r' => some '\r'
  | 'e' => some (Char.ofNat 0x1B)
  | ' ' => some ' '
  | '"' => some '"'
  | '/' => some '/'
  | '\\' => some '\\'
  | 'N' => some (Char.ofNat 0x85)
  | '_' => some (Char.ofNat 0xA0)
  | 'L' => some (Char.ofNat 0x2028)
  | 'P' => some (Char.ofNat 0x2029)
  | _ => none

def singleRun : List Char → Option Run
  | [] => none
  | '\'' :: '\'' :: rest => (singleRun rest).map (.after ['\''] 2)
  | '\'' :: _ => some ⟨[], 0, .quote⟩
  | c :: rest => if isGap c then some ⟨[], 0, .gap⟩ else (singleRun rest).map (.after [c] 1)

def doubleRun : List Char → Option Run
  | [] => none
  | '"' :: _ => some ⟨[], 0, .quote⟩
  | '\\' :: 'x' :: a :: b :: rest => (Text.coded? [a, b]).bind fun c => (doubleRun rest).map (.after [c] 4)
  | '\\' :: 'u' :: a :: b :: d :: e :: rest =>
    (Text.coded? [a, b, d, e]).bind fun c => (doubleRun rest).map (.after [c] 6)
  | '\\' :: 'U' :: a :: b :: d :: e :: f :: g :: h :: i :: rest =>
    (Text.coded? [a, b, d, e, f, g, h, i]).bind fun c => (doubleRun rest).map (.after [c] 10)
  | '\\' :: c :: rest =>
    if isBreak c then some ⟨[], 1, .escapedBreak⟩
    else (escape? c).bind fun c => (doubleRun rest).map (.after [c] 2)
  | c :: rest =>
    if c == '\\' then none else if isGap c then some ⟨[], 0, .gap⟩ else (doubleRun rest).map (.after [c] 1)

/-- The scalar from here on, of at most `runs` runs; `done` is the text read so far. -/
def scan (single : Bool) : (runs : Nat) → (done : List Char) → Cursor → Option (List Char × Cursor)
  | 0, _, _ => none
  | runs + 1, done, c =>
    if c.atDocumentBoundary then none
    else do
      let run ← if single then singleRun c.rest else doubleRun c.rest
      let done := done ++ run.text
      let c := c.advance run.width
      match run.stop with
      | .quote => some (done, c.advance 1)
      | .gap =>
        let (gap, c) ← Gap.scan 0 c.rest.length {} c
        scan single runs (done ++ gap.text) c
      | .escapedBreak =>
        let c := c.nextLine
        let (gap, c) ← Gap.scan 0 c.rest.length { broken := true } c
        scan single runs (done ++ gap.text) c

def scalar? (single : Bool) (c : Cursor) : Option (List Char × Cursor) :=
  scan single (c.rest.length + 1) [] (c.advance 1)

end ApiValidators.Yaml.Quoted
