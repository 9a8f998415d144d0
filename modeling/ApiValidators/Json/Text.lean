import ApiValidators.Source.Tree
import ApiValidators.Text.Quoted

/-!
# JSON text as a tree

Text is cut into tokens. Numerals that are too large and strings that are no text are tokens all the same: they are an
error only where their value is needed. Tokens are then put together one by one: what is expected next (`Expected`) and
the collections that are still open (`Frame`) change with every token, and a text is JSON if a single value is complete
at its end.
-/

namespace ApiValidators.Json

/-! ## Tokens -/

inductive Token where
  | openBrace
  | closeBrace
  | openBracket
  | closeBracket
  | colon
  | comma
  | null
  | bool (b : Bool)
  | number (n : Option Number)
  | string (s : Option String)
  deriving Repr

/-- The text being read; `none` stands for a byte that belongs to no character. -/
abbrev Input := List (Option Char)

/-- The character that a letter after a backslash stands for. -/
def simpleEscape? : Char → Option Char
  | '"' => some '"'
  | '\\' => some '\\'
  | '/' => some '/'
  | 'b' => some (Char.ofNat 8)
  | 'f' => some (Char.ofNat 12)
  | 'n' => some '\n'
  | 'r' => some '\r'
  | 't' => some '\t'
  | _ => none

/-- A piece of a string: a character, or half of a surrogate pair, or a byte of no character. -/
inductive Piece where
  | char (c : Char)
  | half (n : Nat)
  | broken
  deriving Repr

def Piece.ofUnit (n : Nat) : Piece := if 0xD800 ≤ n ∧ n < 0xE000 then half n else char (Char.ofNat n)

/-- The text of pieces: two halves that follow each other join, anything else that is no character spoils the text. -/
def Piece.join? : List Piece → Option (List Char)
  | [] => some []
  | char c :: rest => (join? rest).map (c :: ·)
  | half a :: half b :: rest =>
    if a < 0xDC00 ∧ 0xDC00 ≤ b then
      (join? rest).map (Char.ofNat (0x10000 + (a - 0xD800) * 1024 + (b - 0xDC00)) :: ·)
    else none
  | half _ :: _ => none
  | broken :: _ => none

/-- The pieces of a string up to its closing quote, added to `done`, last piece first, and what follows. -/
def readString (done : List Piece) : Input → Option (List Piece × Input)
  | some '"' :: rest => some (done.reverse, rest)
  | some '\\' :: some 'u' :: a :: b :: c :: d :: rest =>
    (Text.hexNumber? [a, b, c, d]).bind fun n => readString (.ofUnit n :: done) rest
  | some '\\' :: some e :: rest => (simpleEscape? e).bind fun c => readString (.char c :: done) rest
  | some c :: rest => if c == '\\' || c.toNat < 0x20 then none else readString (.char c :: done) rest
  | none :: rest => readString (.broken :: done) rest
  | [] => none

def digit? : Option Char → Option Nat
  | some c => if c.isDigit then some (c.toNat - '0'.toNat) else none
  | none => none

/-- Digits at the start of the text, and what follows. -/
def readDigits : Input → List Nat × Input
  | [] => ([], [])
  | c :: rest =>
    match digit? c with
    | some d => let (ds, rest) := readDigits rest; (d :: ds, rest)
    | none => ([], c :: rest)

def readSomeDigits? (input : Input) : Option (List Nat × Input) :=
  match readDigits input with
  | ([], _) => none
  | found => some found

/-- The places behind a point, if there is one. -/
def readPlaces? : Input → Option (Option (List Nat) × Input)
  | some '.' :: rest => (readSomeDigits? rest).map fun (ds, rest) => (some ds, rest)
  | input => some (none, input)

/-- A sign that may be missing: whether it is negative. -/
def readSign : Input → Bool × Input
  | some '-' :: rest => (true, rest)
  | some '+' :: rest => (false, rest)
  | input => (false, input)

def readExponent? : Input → Option (Option (Bool × List Nat) × Input)
  | some c :: rest =>
    if c == 'e' || c == 'E' then
      let (down, rest) := readSign rest
      (readSomeDigits? rest).map fun (ds, rest) => (some (down, ds), rest)
    else some (none, some c :: rest)
  | input => some (none, input)

/-- A numeral without its sign, and what follows. Only zero itself starts with a zero. -/
def readNumeral? (negative : Bool) (input : Input) : Option (Numeral × Input) := do
  let (whole, rest) ← readSomeDigits? input
  if whole.length > 1 && whole.head? == some 0 then none
  let (places, rest) ← readPlaces? rest
  let (exponent, rest) ← readExponent? rest
  pure (⟨negative, whole, places, exponent⟩, rest)

/-- What follows a word at the start of the text, if it is there. -/
def afterWord? (word : String) (input : Input) : Option Input :=
  let cs := word.toList.map some
  if cs.isPrefixOf input then some (input.drop cs.length) else none

/-- The token that starts with a character, and what follows it. -/
def readToken? (c : Char) (rest : Input) : Option (Token × Input) :=
  match c with
  | '\x7b' => some (.openBrace, rest)
  | '\x7d' => some (.closeBrace, rest)
  | '[' => some (.openBracket, rest)
  | ']' => some (.closeBracket, rest)
  | ':' => some (.colon, rest)
  | ',' => some (.comma, rest)
  | '"' => (readString [] rest).map fun (pieces, rest) => (.string ((Piece.join? pieces).map String.ofList), rest)
  | 'n' => (afterWord? "ull" rest).map (.null, ·)
  | 't' => (afterWord? "rue" rest).map (.bool true, ·)
  | 'f' => (afterWord? "alse" rest).map (.bool false, ·)
  | '-' => (readNumeral? true rest).map fun (m, rest) => (.number m.value?, rest)
  | c => (readNumeral? false (some c :: rest)).map fun (m, rest) => (.number m.value?, rest)

/-- Blanks between tokens. -/
def isBlank (c : Char) : Bool := c == ' ' || c == '\n' || c == '\t' || c == '\r'

/-- The tokens of a text of at most `length` characters, added to `done`, last token first. -/
def tokensFrom : (length : Nat) → (done : List Token) → Input → Option (List Token)
  | _, done, [] => some done.reverse
  | 0, _, _ => none
  | _, _, none :: _ => none
  | length + 1, done, some c :: rest =>
    if isBlank c then tokensFrom length done rest
    else (readToken? c rest).bind fun (t, rest) => tokensFrom length (t :: done) rest

def tokens (input : Input) : Option (List Token) := tokensFrom input.length [] input

/-! ## Trees -/

/-- A collection that is still open, its parts last one first. A key waits for its value. -/
inductive Frame where
  | items (done : List Tree)
  | members (done : List (Tree × Tree)) (key : Option Tree)

/-- What may come next. -/
inductive Expected where
  /-- A value, or, right after an opening bracket, its closing one. -/
  | value (orClose : Bool)
  /-- A key, or, right after an opening brace, its closing one. -/
  | key (orClose : Bool)
  | colon
  /-- A comma, or the end of the collection. -/
  | separator
  /-- Nothing: the value is complete. -/
  | nothing (result : Tree)

/-- A state of putting tokens together. -/
abbrev Assembly := Expected × List Frame

/-- A value is complete. -/
def place (t : Tree) : List Frame → Option Assembly
  | [] => some (.nothing t, [])
  | .items done :: outer => some (.separator, .items (t :: done) :: outer)
  | .members done (some key) :: outer => some (.separator, .members ((key, t) :: done) none :: outer)
  | .members _ none :: _ => none

def closeList : List Frame → Option Assembly
  | .items done :: outer => place (.list true done.reverse) outer
  | _ => none

def closeMap : List Frame → Option Assembly
  | .members done none :: outer => place (.map true done.reverse) outer
  | _ => none

/-- A text in each of the places where it may stand; nowhere, if it is broken. -/
def stringLeaf (s : Option String) : Leaf where
  text := s
  content := s.map .text

def numberContent : Number → Content
  | .whole n => if n < 0 then .signed n else .unsigned n.toNat
  | .double x => .double x

def leaf? : Token → Option Leaf
  | .null => some { absent := some true, content := some .null }
  | .bool b => some { content := some (.bool b) }
  | .number n => some { content := n.map numberContent }
  | .string s => some (stringLeaf s)
  | _ => none

/-- What one token changes. -/
def step : Assembly → Token → Option Assembly
  | (.value _, outer), .openBracket => some (.value true, .items [] :: outer)
  | (.value _, outer), .openBrace => some (.key true, .members [] none :: outer)
  | (.value true, outer), .closeBracket => closeList outer
  | (.value _, outer), t => (leaf? t).bind fun l => place (.leaf l) outer
  | (.key _, .members done none :: outer), .string s =>
    some (.colon, .members done (some (.leaf (stringLeaf s))) :: outer)
  | (.key true, outer), .closeBrace => closeMap outer
  | (.colon, outer), .colon => some (.value false, outer)
  | (.separator, .items done :: outer), .comma => some (.value false, .items done :: outer)
  | (.separator, .members done none :: outer), .comma => some (.key false, .members done none :: outer)
  | (.separator, outer), .closeBracket => closeList outer
  | (.separator, outer), .closeBrace => closeMap outer
  | _, _ => none

def tree? (input : Input) : Option Tree := do
  match ← (← tokens input).foldlM step (.value false, []) with
  | (.nothing t, _) => some t
  | _ => none

def levels : Nat := 127

/-- A text to be read, if it is JSON. -/
def source? (input : Input) : Option Source := (tree? input).map fun root => { root, levels, positional := true }

def inputOf (text : String) : Input := text.toList.map some

def content? (text : String) : Option Content :=
  (source? (inputOf text)).bind fun src => src.read (src.content src.levels)

def parse? (text : String) : Option Json := (content? text).bind Content.asJson?

end ApiValidators.Json
