import ApiValidators.Json.Basic

/-!
# Validator expressions

An expression is an identifier or a chain of calls: a base builder and the modifiers called on it. Arguments of
modifiers are literals or expressions. Nothing here knows how an expression is written down.
-/

namespace ApiValidators

/-- A literal value in generated code. Unlike a JSON value it may have a key twice. -/
inductive Literal where
  | null
  | bool (b : Bool)
  | number (n : Number)
  | string (s : String)
  | array (items : List Literal)
  | object (members : List (String × Literal))
  deriving Repr, Inhabited

namespace Literal

mutual

/-- `from_json`: the literal of a JSON value. -/
def ofJson : Json → Literal
  | .null => null
  | .bool b => bool b
  | .number n => number n
  | .string s => string s
  | .array items => array (ofItems items)
  | .object members => object (ofMembers members)

def ofItems : List Json → List Literal
  | [] => []
  | v :: vs => ofJson v :: ofItems vs

def ofMembers : List (String × Json) → List (String × Literal)
  | [] => []
  | (k, v) :: ms => (k, ofJson v) :: ofMembers ms

end

mutual

/-- `to_json`: the JSON value of a literal. A key given twice keeps its first position and its last value. -/
def toJson : Literal → Json
  | null => .null
  | bool b => .bool b
  | number n => .number n
  | string s => .string s
  | array items => .array (toItems items)
  | object members => .object (Entries.collect (toMembers members))

def toItems : List Literal → List Json
  | [] => []
  | l :: ls => toJson l :: toItems ls

def toMembers : List (String × Literal) → List (String × Json)
  | [] => []
  | (k, l) :: ms => (k, toJson l) :: toMembers ms

end

end Literal

/-- A member of an object builder (`Property`). -/
structure Member (ε : Type) where
  name : String
  value : ε
  /-- A comment for the line above the member. -/
  comment : Option String := none
  deriving Repr

inductive Argument (ε : Type) where
  | literal (l : Literal)
  | expr (e : ε)
  deriving Repr

structure Modifier (ε : Type) where
  name : String
  arguments : List (Argument ε) := []
  deriving Repr

/-- What a chain of calls starts from. -/
inductive Base (ε : Type) where
  | string
  | number
  | boolean
  | null
  | unknown
  | enum (labels : List String)
  | array (item : ε)
  | object (members : List (Member ε))
  | union (branches : List ε)
  /-- An identifier that modifiers are called on. -/
  | named (name : String)
  deriving Repr

/-- A validator expression. -/
inductive Expr where
  | identifier (name : String)
  | call (base : Base Expr) (modifiers : List (Modifier Expr))
  deriving Repr, Inhabited

namespace Base

def name {ε : Type} : Base ε → String
  | string => "string"
  | number => "number"
  | boolean => "boolean"
  | null => "null"
  | unknown => "unknown"
  | enum _ => "enum"
  | array _ => "array"
  | object _ => "object"
  | union _ => "union"
  | named name => name

def isObject {ε : Type} : Base ε → Bool
  | object _ => true
  | _ => false

end Base

namespace Expr

/-- A builder without modifiers. -/
def ofBase (base : Base Expr) : Expr := call base []

def isCall : Expr → Bool
  | call .. => true
  | identifier _ => false

/-- `is_object_call`: whether this is a chain that starts from the object builder. -/
def isObjectCall : Expr → Bool
  | call base _ => base.isObject
  | identifier _ => false

/-- The base; an identifier is a base of its own. -/
def base : Expr → Base Expr
  | call base _ => base
  | identifier name => .named name

/-- The modifiers; an identifier has none. -/
def modifiers : Expr → List (Modifier Expr)
  | call _ modifiers => modifiers
  | identifier _ => []

/-- `into_call`, then modifiers: an identifier becomes the base of a chain. -/
def chain (e : Expr) (more : List (Modifier Expr)) : Expr := call e.base (e.modifiers ++ more)

def modifierNames (e : Expr) : List String := e.modifiers.map Modifier.name

end Expr

namespace Modifier

def ofLiteral (name : String) (l : Literal) : Modifier Expr := ⟨name, [.literal l]⟩

def ofExpr (name : String) (e : Expr) : Modifier Expr := ⟨name, [.expr e]⟩

end Modifier

end ApiValidators
