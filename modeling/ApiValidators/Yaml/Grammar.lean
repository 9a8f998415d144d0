import ApiValidators.Yaml.Node
import ApiValidators.Yaml.Token

/-!
# The grammar of YAML

Tokens are put together by recursive descent; `document?` is the one document of a text. A part that is left out is an
empty plain scalar. Handles of tags and names of anchors are looked up on the way, as their meaning depends on what has
been read before.
-/

namespace ApiValidators.Yaml

/-- What is left to read, the handles of tags, and the anchors by name. -/
structure Remaining where
  tokens : List Token
  handles : List (List Char × TagBytes) := []
  anchors : List (List Char × Nat) := []

abbrev Step := StateT Remaining Option

namespace Step

def peek : Step (Option Token) := do return (← get).tokens.head?

def skip : Step Unit := modify fun r => { r with tokens := r.tokens.drop 1 }

/-- Whether the next token is of a kind; nothing is, at the end. -/
def sees (kind : Token → Bool) : Step Bool := do return (← peek).any kind

/-- Passes over the next token if it is of a kind. -/
def accept (kind : Token → Bool) : Step Bool := do
  if ← sees kind then
    skip
    return true
  else return false

/-- Passes over the next token, which must be of a kind. -/
def expect (kind : Token → Bool) : Step Unit := do unless ← accept kind do failure

end Step

namespace Token

def isKey (t : Token) : Bool := t matches key
def isValue (t : Token) : Bool := t matches value
def isHyphen (t : Token) : Bool := t matches hyphen
def isComma (t : Token) : Bool := t matches comma
def isCloseBlock (t : Token) : Bool := t matches closeBlock
def isCloseBracket (t : Token) : Bool := t matches closeBracket
def isCloseBrace (t : Token) : Bool := t matches closeBrace
def isDocumentStart (t : Token) : Bool := t matches documentStart
def isDocumentEnd (t : Token) : Bool := t matches documentEnd
/-- What ends a part of a member in a block. -/
def endsBlockPart (t : Token) : Bool := t.isKey || t.isValue || t.isCloseBlock
/-- What ends an item in brackets. -/
def endsListPart (t : Token) : Bool := t.isComma || t.isCloseBracket
def endsMapPart (t : Token) : Bool := t.isComma || t.isCloseBrace

end Token

namespace Node

/-- What stands for a part that is left out. -/
def empty : Node := scalar none {}

end Node

namespace Grammar

open Step

/-! ## Properties -/

def fullTag (t : RawTag) : Step TagBytes := do
  if t.handle.isEmpty then return t.suffix
  else ((← get).handles.lookup t.handle).elim failure fun expansion => pure (expansion ++ t.suffix)

/-- Numbers an anchor: by the names there are, itself included if it is given again. -/
def declare (name : List Char) : Step Nat := do
  let r ← get
  let number := r.anchors.length
  set { r with anchors := (name, number) :: r.anchors.filter (·.1 != name) }
  return number

def anchor? : Step (Option (List Char)) := do
  match ← peek with
  | some (.anchor name) => skip; return some name
  | _ => return none

def tag? : Step (Option RawTag) := do
  match ← peek with
  | some (.tag t) => skip; return some t
  | _ => return none

/-- The anchor and the tag of a node, which stand in either order. -/
def properties : Step (Option Nat × Option TagBytes) := do
  let first ← anchor?
  let tag ← tag?
  let anchor ← if first.isSome then pure first else anchor?
  return (← anchor.mapM declare, ← tag.mapM fullTag)

/-! ## Nodes -/

/-- A scalar with its properties. A lone exclamation mark says nothing about it. -/
def scalarNode (anchor : Option Nat) (tag : Option TagBytes) (text : List Char) (plain : Bool) : Node :=
  .scalar anchor { text, plain, tag := tag.filter (· != Tag.ofAscii ['!']) }

/-- A node that is nothing but its properties, of which it must have one. -/
def bareNode (anchor : Option Nat) (tag : Option TagBytes) : Step Node :=
  if anchor.isSome || tag.isSome then pure (.scalar anchor { tag }) else failure

/-- A part that is left out if a token of a kind is next. -/
def partUnless (ends : Token → Bool) (read : Step Node) : Step Node := do
  if ← sees ends then pure .empty else read

mutual

/-- A node. `block` allows block collections, and `loose` a list whose hyphens are not indented. -/
def node : (fuel : Nat) → (block loose : Bool) → Step Node
  | 0, _, _ => failure
  | fuel + 1, block, loose => do
    if let some (.aliasName name) ← peek then
      skip
      ((← get).anchors.lookup name).elim failure fun number => pure (.aliasOf number)
    else
      let (anchor, tag) ← properties
      match ← peek with
      | some .hyphen => if loose then return .list anchor tag (← looseItems fuel) else bareNode anchor tag
      | some (.scalar text plain) => skip; return scalarNode anchor tag text plain
      | some .openBracket => skip; return .list anchor tag (← flowItems fuel true)
      | some .openBrace => skip; return .map anchor tag (← flowMembers fuel true)
      | some .openBlockList =>
        if block then
          skip
          return .list anchor tag (← blockItems fuel)
        else bareNode anchor tag
      | some .openBlockMap =>
        if block then
          skip
          return .map anchor tag (← blockMembers fuel)
        else bareNode anchor tag
      | _ => bareNode anchor tag

def blockItems : (fuel : Nat) → Step (List Node)
  | 0 => failure
  | fuel + 1 => do
    if ← accept Token.isHyphen then
      let item ← partUnless (fun t => t.isHyphen || t.isCloseBlock) (node fuel true false)
      return item :: (← blockItems fuel)
    else
      expect Token.isCloseBlock
      return []

/-- The items of a list that is not indented. -/
def looseItems : (fuel : Nat) → Step (List Node)
  | 0 => failure
  | fuel + 1 => do
    if ← accept Token.isHyphen then
      let item ← partUnless (fun t => t.isHyphen || t.endsBlockPart) (node fuel true false)
      return item :: (← looseItems fuel)
    else return []

def blockMembers : (fuel : Nat) → Step (List (Node × Node))
  | 0 => failure
  | fuel + 1 => do
    if ← accept Token.isKey then
      let key ← partUnless Token.endsBlockPart (node fuel true true)
      let value ← if ← accept Token.isValue then partUnless Token.endsBlockPart (node fuel true true) else pure .empty
      return (key, value) :: (← blockMembers fuel)
    else
      expect Token.isCloseBlock
      return []

def flowItems : (fuel : Nat) → (first : Bool) → Step (List Node)
  | 0, _ => failure
  | fuel + 1, first => do
    if ← accept Token.isCloseBracket then return []
    else
      if !first then expect Token.isComma
      if ← accept Token.isCloseBracket then return []
      else
        let item ← if ← accept Token.isKey then flowPair fuel else node fuel false false
        return item :: (← flowItems fuel false)

/-- A map with one member, written in brackets without braces; its sign has been read. A key that is left out takes the
place of the next token. -/
def flowPair : (fuel : Nat) → Step Node
  | 0 => failure
  | fuel + 1 => do
    let key ← if ← accept (fun t => t.isValue || t.endsListPart) then pure .empty else node fuel false false
    let value ← if ← accept Token.isValue then partUnless Token.endsListPart (node fuel false false) else pure .empty
    return .map none none [(key, value)]

def flowMembers : (fuel : Nat) → (first : Bool) → Step (List (Node × Node))
  | 0, _ => failure
  | fuel + 1, first => do
    if ← accept Token.isCloseBrace then return []
    else
      if !first then expect Token.isComma
      if ← accept Token.isCloseBrace then return []
      else if ← accept Token.isKey then
        let key ← partUnless (fun t => t.isValue || t.endsMapPart) (node fuel false false)
        let value ← if ← accept Token.isValue then partUnless Token.endsMapPart (node fuel false false) else pure .empty
        return (key, value) :: (← flowMembers fuel false)
      else
        let key ← node fuel false false
        return (key, .empty) :: (← flowMembers fuel false)

end

/-! ## Documents -/

/-- The handles that need no directive. -/
def standardHandles : List (List Char × TagBytes) :=
  [(['!'], Tag.ofAscii ['!']), (['!', '!'], Tag.core "")]

/-- What directives declare: versions 1.1 and 1.2 are known, and nothing may be given twice. -/
def directives (versionGiven : Bool) (given : List (List Char × TagBytes)) : List Directive →
    Option (List (List Char × TagBytes))
  | [] => some given
  | .version major minor :: rest =>
    if versionGiven || major != 1 || (minor != 1 && minor != 2) then none else directives true given rest
  | .tag handle expansion :: rest =>
    if (given.lookup handle).isSome then none else directives versionGiven ((handle, expansion) :: given) rest

def directiveOf? : Token → Option Directive
  | .directive d => some d
  | _ => none

/-- The node at the top of a document, which may be left out if a sign started the document. -/
def top (fuel : Nat) : Step Node := do
  let explicit ← accept Token.isDocumentStart
  match ← peek with
  | none | some (.directive _) | some .documentStart | some .documentEnd => if explicit then pure .empty else failure
  | _ => node fuel true false

/-- The top of the only document of the tokens; no tokens are no document. Directives need a sign behind them that
starts the document. -/
def document? (tokens : List Token) : Option (Option Node) := do
  let declared := (tokens.map directiveOf?).takeWhile Option.isSome
  let rest := tokens.drop declared.length
  if tokens.isEmpty then return none
  else
    let given ← directives false [] (declared.filterMap id)
    if !declared.isEmpty && !rest.head?.any Token.isDocumentStart then failure
    let (n, after) ← (top (4 * rest.length + 8)).run { tokens := rest, handles := given ++ standardHandles }
    if after.tokens.all Token.isDocumentEnd then return some n else failure

end Grammar

/-! ## Texts -/

def levels : Nat := 128

/-- How many aliases may be followed for each event of a document. -/
def jumpsPerEvent : Nat := 100

/-- What stands for no document. -/
def nothing : Leaf := { absent := some true, blank := true }

/-- A document to be read. Of two nodes with one anchor the later one counts. -/
def sourceOf : Option Node → Source
  | none => { root := .leaf nothing, levels }
  | some n =>
    { root := n.tree, anchors := (n.anchored.map fun (anchor, m) => (anchor, m.tree)).reverse, levels,
      jumps := n.events * jumpsPerEvent }

def source? (text : List Char) : Option Source := ((tokens? text).bind Grammar.document?).map sourceOf

end ApiValidators.Yaml
