import ApiValidators.Json.Basic

/-!
# What is read

A document tree is what a notation makes of a text before anyone knows what the text is about. A scalar is kept with
everything it may turn out to be (`Leaf`), since that depends on where it stands. An alias stands for another part of
the tree and is only followed where that part is needed; how often that may happen, and how deep collections may nest,
is up to the notation (`Source`).

Schemas and parameters are read from content, whatever notation it was written in. Keys of maps can be any content, and
a whole number remembers whether it was written with a sign, as only one without can stand for the position of a field.
-/

/-! ## Content -/

namespace ApiValidators

/-- A value of any notation. -/
inductive Content where
  | null
  | bool (b : Bool)
  | unsigned (n : Nat)
  | signed (n : Int)
  | double (x : Binary64)
  /-- An infinity, or no number at all. -/
  | notFinite
  | text (s : String)
  | list (items : List Content)
  | map (members : List (Content × Content))
  deriving Repr, Inhabited

namespace Content

/-! ### Fields -/

/-- The field a key stands for: the one of that name or position, or none; no key of another sort is allowed. -/
def field? (fields : List String) : Content → Option (Option String)
  | text s => some (if fields.contains s then some s else none)
  | unsigned n => some fields[n]?
  | _ => none

/-- The fields in a map, each at most once. Keys that stand for no field are passed over. -/
def fieldsOf? {α : Type} (fields : List String) (members : List (Content × α)) : Option (List (String × α)) := do
  let found ← members.mapM fun (k, v) => (field? fields k).map (·.map (·, v))
  let found := found.filterMap id
  if (Entries.names found).Nodup then some found else none

/-- The fields in a list, by position; trailing ones may be missing. -/
def fieldsAt? {α : Type} (fields : List String) (items : List α) : Option (List (String × α)) :=
  if items.length ≤ fields.length then some (fields.zip items) else none

/-! ### Plain values -/

def asText? : Content → Option String
  | text s => some s
  | _ => none

def asBool? : Content → Option Bool
  | bool b => some b
  | _ => none

def asNumber? : Content → Option Number
  | unsigned n => some (.whole n)
  | signed n => some (.whole n)
  | double x => some (.double x)
  | _ => none

def asTexts? : Content → Option (List String)
  | list items => items.mapM asText?
  | _ => none

/-- As an optional value: null stands for its absence. -/
def asOption? {α : Type} (f : Content → Option α) : Content → Option (Option α)
  | null => some none
  | c => (f c).map some

mutual

/-- As a JSON value. Keys must be texts; what is no finite number becomes null. -/
def asJson? : Content → Option Json
  | null => some .null
  | bool b => some (.bool b)
  | unsigned n => some (.number (.whole n))
  | signed n => some (.number (.whole n))
  | double x => some (.number (.double x))
  | notFinite => some .null
  | text s => some (.string s)
  | list items => (asJsonItems? items).map .array
  | map members => (asJsonMembers? members).map fun ms => .object (Entries.collect ms)

def asJsonItems? : List Content → Option (List Json)
  | [] => some []
  | c :: cs => do
    let v ← asJson? c
    let vs ← asJsonItems? cs
    pure (v :: vs)

def asJsonMembers? : List (Content × Content) → Option (List (String × Json))
  | [] => some []
  | (k, c) :: rest => do
    let key ← asText? k
    let v ← asJson? c
    let vs ← asJsonMembers? rest
    pure ((key, v) :: vs)

end

mutual

/-- The content of a JSON value. -/
def ofJson : Json → Content
  | .null => null
  | .bool b => bool b
  | .number (.whole n) => if n < 0 then signed n else unsigned n.toNat
  | .number (.double x) => double x
  | .string s => text s
  | .array items => list (ofItems items)
  | .object members => map (ofMembers members)

def ofItems : List Json → List Content
  | [] => []
  | v :: vs => ofJson v :: ofItems vs

def ofMembers : List (String × Json) → List (Content × Content)
  | [] => []
  | (k, v) :: ms => (text k, ofJson v) :: ofMembers ms

end

end Content

end ApiValidators

/-! ## Trees -/

namespace ApiValidators

/-- A scalar in each of the places where it may stand. -/
structure Leaf where
  /-- Where text is expected. -/
  text : Option String := none
  /-- Where the value is optional: whether it says that there is none, unless it can say neither. -/
  absent : Option Bool := some false
  /-- Whether it may stand for a collection without members. -/
  blank : Bool := false
  /-- Where any value is expected. -/
  content : Option Content := none
  deriving Repr, Inhabited

/-- A document tree. A collection that is not plain has a type of its own, and cannot stand for any value. -/
inductive Tree where
  | leaf (l : Leaf)
  | list (plain : Bool) (items : List Tree)
  | map (plain : Bool) (members : List (Tree × Tree))
  | aliasOf (anchor : Nat)
  deriving Repr, Inhabited

/-- A tree with what is needed to read it. -/
structure Source where
  root : Tree
  /-- What aliases stand for. -/
  anchors : List (Nat × Tree) := []
  /-- How deep collections may nest. -/
  levels : Nat
  /-- Whether a record may also be given as the list of its fields. -/
  positional : Bool := false
  /-- How many aliases may be followed. -/
  jumps : Nat := 0

/-- A step of reading: it fails, or counts down the aliases that may still be followed. -/
abbrev Reader := StateT Nat Option

namespace Source

/-- The tree itself, or what it is an alias of. -/
def follow (src : Source) : Tree → Reader Tree
  | .aliasOf anchor => do
    match ← get with
    | 0 => failure
    | left + 1 =>
      set left
      (src.anchors.lookup anchor).elim failure pure
  | t => pure t

/-- The content of a tree with at most `levels` levels of collections. -/
def content (src : Source) : (levels : Nat) → Tree → Reader Content
  | levels, t => do
    match levels, ← src.follow t with
    | _, .leaf l => l.content.elim failure pure
    | left + 1, .list true items => return .list (← items.mapM (content src left))
    | left + 1, .map true members =>
      return .map (← members.mapM fun (k, v) => do return (← content src left k, ← content src left v))
    | _, _ => failure

def read {α : Type} (src : Source) (reader : Tree → Reader α) : Option α :=
  ((reader src.root).run src.jumps).map Prod.fst

end Source

end ApiValidators
