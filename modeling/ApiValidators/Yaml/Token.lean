import ApiValidators.Yaml.Block
import ApiValidators.Yaml.FlowScalar
import ApiValidators.Yaml.Tag

/-!
# YAML tokens

Collections that the text shows by indentation get tokens that open and close them. A key without a sign of its own is
only known to be one when its colon comes, so the place where it may have started is kept (`KeyStart`), and the tokens
that belong in front of it are put there later.
-/

namespace ApiValidators.Yaml

inductive Token where
  | directive (d : Directive)
  | documentStart
  | documentEnd
  | openBlockList
  | openBlockMap
  | closeBlock
  | openBracket
  | closeBracket
  | openBrace
  | closeBrace
  /-- The hyphen of an item. -/
  | hyphen
  | comma
  | key
  | value
  | aliasName (name : List Char)
  | anchor (name : List Char)
  | tag (t : RawTag)
  | scalar (text : List Char) (plain : Bool)
  deriving Repr

/-- A place where a key may have started. -/
structure KeyStart where
  /-- Whether nothing but a key may stand there. -/
  required : Bool
  /-- Number of tokens in front of it. -/
  tokensBefore : Nat
  place : Cursor

/-- A state of cutting a text into tokens. -/
structure Lexer where
  cursor : Cursor
  /-- The tokens, last one first, and how many there are. -/
  done : List Token := []
  count : Nat := 0
  /-- The columns of the open block collections, innermost first. -/
  columns : List Nat := []
  /-- Whether a key without a sign may start here. -/
  keyAllowed : Bool := true
  /-- Where a key may have started within the innermost brackets. -/
  key : Option KeyStart := none
  /-- The same for what is around each open bracket, innermost first. -/
  outerKeys : List (Option KeyStart) := []

namespace Lexer

def inFlow (s : Lexer) : Bool := !s.outerKeys.isEmpty

def emit (t : Token) (s : Lexer) : Lexer := { s with done := t :: s.done, count := s.count + 1 }

/-- A token is put behind the first `tokensBefore` ones. -/
def emitAt (tokensBefore : Nat) (t : Token) (s : Lexer) : Lexer :=
  let later := s.count - tokensBefore
  { s with done := s.done.take later ++ t :: s.done.drop later, count := s.count + 1 }

/-- A block collection opens at a column, unless the innermost one is as deep. -/
def indent (column tokensBefore : Nat) (t : Token) (s : Lexer) : Lexer :=
  if !s.inFlow && s.columns.head?.all (· < column) then
    { s with columns := column :: s.columns }.emitAt tokensBefore t
  else s

/-- All block collections deeper than a column close; all of them, if there is no column. -/
def unindent (column : Option Nat) (s : Lexer) : Lexer :=
  if s.inFlow then s
  else
    let closed := (s.columns.takeWhile fun n => column.all (· < n)).length
    { s with
      columns := s.columns.drop closed, done := List.replicate closed .closeBlock ++ s.done, count := s.count + closed }

/-- No key has started. -/
def dropKey? (s : Lexer) : Option Lexer := if s.key.any KeyStart.required then none else some { s with key := none }

/-- A key may start here. -/
def markKey? (s : Lexer) : Option Lexer :=
  if s.keyAllowed then do
    let s ← s.dropKey?
    let required := !s.inFlow && s.columns.head? == some s.cursor.column
    some { s with key := some ⟨required, s.count, s.cursor⟩ }
  else some s

/-- How far a key without a sign may reach. -/
def keyReach : Nat := 1024

/-- The key that ends here, if there is one: it must be on this line and not too far away. -/
def endedKey? (s : Lexer) : Option (Option KeyStart) :=
  match s.key with
  | none => some none
  | some k =>
    if s.cursor.line ≤ k.place.line && s.cursor.index ≤ k.place.index + keyReach then some (some k)
    else if k.required then none
    else some none

/-! ## Signs -/

/-- A token of `width` characters has been read, and whether a key may start behind it. -/
def pass (width : Nat) (keyAllowed : Bool) (t : Token) (s : Lexer) : Lexer :=
  { s with cursor := s.cursor.advance width, keyAllowed }.emit t

def boundary? (t : Token) (s : Lexer) : Option Lexer := (s.unindent none).dropKey?.map (pass 3 false t)

def directive? (s : Lexer) : Option Lexer := do
  let s ← (s.unindent none).dropKey?
  let (d, c) ← Directive.directive? s.cursor
  some ({ s with cursor := c, keyAllowed := false }.emit (.directive d))

def open? (t : Token) (s : Lexer) : Option Lexer :=
  s.markKey?.map fun s => { s with key := none, outerKeys := s.key :: s.outerKeys }.pass 1 true t

def close? (t : Token) (s : Lexer) : Option Lexer :=
  s.dropKey?.map fun s => { s with key := s.outerKeys.head?.getD s.key, outerKeys := s.outerKeys.drop 1 }.pass 1 false t

def comma? (s : Lexer) : Option Lexer := s.dropKey?.map (pass 1 true .comma)

/-- A sign that belongs to a block collection, which may open here. -/
def blockSign? (opener : Token) (s : Lexer) : Option Lexer :=
  if s.inFlow then some s
  else if s.keyAllowed then some (s.indent s.cursor.column s.count opener)
  else none

def hyphen? (s : Lexer) : Option Lexer := do
  let s ← s.blockSign? .openBlockList
  s.dropKey?.map (pass 1 true .hyphen)

def keySign? (s : Lexer) : Option Lexer := do
  let s ← s.blockSign? .openBlockMap
  s.dropKey?.map (pass 1 (!s.inFlow) .key)

/-- A colon: the sign of a value, and the end of a key that may have started before. -/
def colon? (s : Lexer) : Option Lexer := do
  match ← s.endedKey? with
  | some k =>
    let s := { s with key := none }.emitAt k.tokensBefore .key
    some ((s.indent k.place.column k.tokensBefore .openBlockMap).pass 1 false .value)
  | none =>
    let s ← { s with key := none }.blockSign? .openBlockMap
    some (s.pass 1 (!s.inFlow) .value)

/-! ## Words -/

/-- What may be a key has been read up to a place. -/
def word? (read : Cursor → Option (Token × Cursor)) (s : Lexer) : Option Lexer := do
  let s ← s.markKey?
  let (t, c) ← read s.cursor
  some ({ s with cursor := c, keyAllowed := false }.emit t)

/-- A plain scalar. A key may start behind it if it has ended its line. -/
def plain? (s : Lexer) : Option Lexer := do
  let s ← s.markKey?
  let (text, broken, c) ← Plain.scalar? s.inFlow (s.columns.head?.elim 0 (· + 1)) s.cursor
  some ({ s with cursor := c, keyAllowed := broken }.emit (.scalar text true))

def quoted? (single : Bool) : Lexer → Option Lexer :=
  word? fun c => (Quoted.scalar? single c).map fun (text, c) => (.scalar text false, c)

def blockScalar? (folded : Bool) (s : Lexer) : Option Lexer := do
  let s ← s.dropKey?
  let (text, c) ← Block.scalar? folded s.columns.head? s.cursor
  some ({ s with cursor := c, keyAllowed := true }.emit (.scalar text false))

/-- The characters that no plain scalar starts with, besides those that other tokens start with. -/
def isReserved (ch : Char) : Bool := ch == '#' || ch == '%' || ch == '@' || ch.toNat == 0x60

/-- The token that starts with a character, which is the next one. -/
def next? (ch : Char) (s : Lexer) : Option Lexer :=
  let c := s.cursor
  let alone := atGap (c.rest.drop 1)
  if ch == '%' && c.column == 0 then s.directive?
  else if c.atMarker '-' then s.boundary? .documentStart
  else if c.atMarker '.' then s.boundary? .documentEnd
  else
    match ch with
    | '[' => s.open? .openBracket
    | '\x7b' => s.open? .openBrace
    | ']' => s.close? .closeBracket
    | '\x7d' => s.close? .closeBrace
    | ',' => s.comma?
    | '*' => s.word? fun c => (anchorName? c).map fun (name, c) => (.aliasName name, c)
    | '&' => s.word? fun c => (anchorName? c).map fun (name, c) => (.anchor name, c)
    | '!' => s.word? fun c => (Tag.tag? s.inFlow c).map fun (t, c) => (.tag t, c)
    | '\'' => s.quoted? true
    | '"' => s.quoted? false
    | '|' => if s.inFlow then none else s.blockScalar? false
    | '>' => if s.inFlow then none else s.blockScalar? true
    | '-' => if alone then s.hyphen? else s.plain?
    | '?' => if alone || s.inFlow then s.keySign? else s.plain?
    | ':' => if alone || s.inFlow then s.colon? else s.plain?
    | ch => if isGap ch || isReserved ch then none else s.plain?

/-- All tokens from here on, at most `fuel` of them. -/
def run : (fuel : Nat) → Lexer → Option (List Token)
  | 0, _ => none
  | fuel + 1, s =>
    let (c, keyAllowed) := s.cursor.toToken s.inFlow (s.cursor.rest.length + 1) s.keyAllowed
    let s := { s with cursor := c, keyAllowed }.unindent (some c.column)
    match c.peek with
    | some ch => (s.next? ch).bind (run fuel)
    | none => (s.unindent none).dropKey?.map fun s => s.done.reverse

end Lexer

/-- The tokens of a text. Every token has a character of its own. -/
def tokens? (text : List Char) : Option (List Token) :=
  if text.all isPrintable then Lexer.run (text.length + 1) { cursor := { rest := text } } else none

end ApiValidators.Yaml
