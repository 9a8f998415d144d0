import ApiValidators.Text.Characters

/-!
# Names

Source names are cut into words and written again in camel case; a word ends at a run of separators and before an ASCII
capital, and no other character is lost. Any text is made into a name that may stand as a bare binding or a bare member
name. Names are handed out one after the other, each at most once: a name that is taken is followed by the least number
from 2 on that makes it new.
-/

namespace ApiValidators.Naming

open Text

/-! ## Words -/

/-- Separators stand between words and belong to none (`is_separator`). -/
def isSeparator (c : Char) : Bool := c == '-' || c == '_' || isBlank c

def pushFront (c : Char) : List (List Char) → List (List Char)
  | [] => [[c]]
  | word :: words => (c :: word) :: words

/-- The words of a text, given whether a separator, another character or nothing (`none`) stands before it.

The first word of the answer continues the word that is open there. -/
def wordsAfter (separatorBefore : Option Bool) : List Char → List (List Char)
  | [] => [[]]
  | c :: rest =>
    if isSeparator c then
      if separatorBefore == some true then wordsAfter (some true) rest else [] :: wordsAfter (some true) rest
    else
      let words := pushFront c (wordsAfter (some false) rest)
      if c.isUpper && separatorBefore == some false then [] :: words else words

/-- `split_words`: the words of a text. Leading and trailing separators give empty words. -/
def words (text : List Char) : List (List Char) := wordsAfter none text

/-- `to_identifier`: the text in camel case, its first word in lower case, every later one capitalised. -/
def camelCase (text : List Char) : List Char :=
  match words text with
  | [] => []
  | first :: later => lower first ++ later.flatMap capitalize

/-- `sanitize_words`: the text with every character that is no ASCII letter or digit replaced by an underscore. -/
def underscored (text : List Char) : List Char := text.map fun c => if c.isAlphanum then c else '_'

/-! ## Legal names -/

/-- `is_identifier_start`: characters that may open a bare name. -/
def opensName (c : Char) : Bool := c.isAlpha || c == '_' || c == '$'

/-- `is_identifier_part`: characters that may stand inside a bare name. -/
def inName (c : Char) : Bool := c.isAlphanum || c == '_' || c == '$'

/-- `is_bare_property_name`: whether a text can be written as a name without quotes. -/
def isBareName : List Char → Bool
  | [] => false
  | c :: rest => opensName c && rest.all inName

/-- `RESERVED_KEYWORDS`: words that cannot be bound, although they are bare names. -/
def reserved : List String :=
  ["abstract", "arguments", "await", "boolean", "break", "byte", "case", "catch", "char", "class", "const",
   "continue", "debugger", "default", "delete", "do", "double", "else", "enum", "eval", "export", "extends", "false",
   "final", "finally", "float", "for", "function", "goto", "if", "implements", "import", "in", "instanceof", "int",
   "interface", "let", "long", "native", "new", "null", "package", "private", "protected", "public", "return",
   "short", "static", "super", "switch", "synchronized", "this", "throw", "throws", "transient", "true", "try",
   "typeof", "var", "void", "volatile", "while", "with", "yield"]

/-- The text with each character that cannot stand where it does replaced by an underscore; a leading digit keeps
its place behind one. -/
def bareName : List Char → List Char
  | [] => ['_']
  | c :: rest =>
    let tail := rest.map fun c => if inName c then c else '_'
    if opensName c then c :: tail else if c.isDigit then '_' :: c :: tail else '_' :: tail

/-- `to_valid_identifier`: a legal binding for any text, its bare name, behind an underscore when that is reserved. -/
def legalName (text : List Char) : List Char :=
  let name := bareName text
  if reserved.contains (String.ofList name) then '_' :: name else name

/-- `statement_identifier`: the exported name of the statement of one kind (`schema`, `path` or `query`) for one source
name. -/
def exportName (kind source : String) : String :=
  String.ofList (legalName (camelCase (kind.toList ++ '_' :: source.toList)))

/-! ## Claims -/

def numbered (name : String) (n : Nat) : String := name ++ toString n

/-- The first of `tries` numbers from `n` on that makes the name new. -/
def firstFree (taken : List String) (name : String) : (tries n : Nat) → Option Nat
  | 0, _ => none
  | tries + 1, n => if taken.contains (numbered name n) then firstFree taken name tries (n + 1) else some n

/-- Numbers behind a name are below this bound. -/
def numberLimit : Nat := 0x100000000

/-- The outcome of a claim: the name handed out, and whether it differs from the name asked for. -/
structure Claim where
  name : String
  renamed : Bool
  deriving Repr, DecidableEq

/-- `claim` on an `IdentifierSet`: what the next claim of `name` gives when the names in `taken` are gone. `taken.length
+ 1` numbers suffice, as that many different texts cannot all be taken. -/
def claim (taken : List String) (name : String) : Claim :=
  if taken.contains name then
    let free := firstFree taken name (min (taken.length + 1) (numberLimit - 2)) 2
    ⟨(free.map (numbered name)).getD name, true⟩
  else ⟨name, false⟩

/-- The claims of a list of names in turn, after those in `taken`, which lists the last name first. -/
def claimAll (taken : List String) : List String → List Claim
  | [] => []
  | name :: names =>
    let c := claim taken name
    c :: claimAll (c.name :: taken) names

end ApiValidators.Naming
