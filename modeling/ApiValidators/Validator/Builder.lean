import ApiValidators.Naming.Basic
import ApiValidators.Options
import ApiValidators.Validator.Expr
import ApiValidators.Warning

/-!
# From schemas to expressions

`Schema.build` turns a schema into a validator expression and never fails: what is not understood becomes `unknown`. A
body first gives a base (`Kind`), into which the branches of `allOf` are merged; then modifiers follow in a fixed order:
format, constraints, default, nullability. A reference is not followed: it gives the name of the statement that
declares the schema it names.
-/

/-! ## Remarks in descriptions -/

namespace ApiValidators.Remark

/-- `RAW_EXPRESSION_MARKER`: what announces a raw expression. -/
def marker : List Char := "zod: ".toList

/-- The parts of a text between markers; `part` is the one read so far, last character first, and `skip` counts the
characters of a marker that are still to be passed over. -/
def splitFrom (part : List Char) : (skip : Nat) → List Char → List (List Char)
  | _, [] => [part.reverse]
  | skip + 1, _ :: rest => splitFrom part skip rest
  | 0, c :: rest =>
    if marker.isPrefixOf (c :: rest) then part.reverse :: splitFrom [] (marker.length - 1) rest
    else splitFrom (c :: part) 0 rest

def split (text : List Char) : List (List Char) := splitFrom [] 0 text

/-- The trimmed text, unless nothing is left of it. -/
def nonBlank (text : List Char) : Option String :=
  match Text.trim text with
  | [] => none
  | trimmed => some (String.ofList trimmed)

/-- `comment_text`: the comment in a description. -/
def comment (description : String) : Option String := (split description.toList).head?.bind nonBlank

/-- `raw_override`: the raw expression in a description. A marker with nothing behind it announces none. -/
def raw (description : String) : Option String := (split description.toList)[1]?.bind nonBlank

end ApiValidators.Remark

/-! ## Formats and constraints -/

namespace ApiValidators

/-- `format_modifier`: the modifier of a format, if it has one. -/
def formatModifier? (format : String) : Option String :=
  if ["integer", "int8", "int16", "int32", "int64", "uint8", "uint16", "uint32", "uint64", "safeint"].contains format
  then some "int"
  else if format == "date-time" then some "datetime"
  else if format == "url" || format == "uri" then some "url"
  else if ["date", "time", "duration", "ip", "email", "uuid", "cuid", "cuid2"].contains format then some format
  else none

inductive Constraint where
  | minItems
  | maxItems
  | minLength
  | maxLength
  | minimum
  | maximum
  deriving Repr, DecidableEq

namespace Constraint

/-- `CONSTRAINT_TABLE`: the constraint keywords in the order in which they are looked at. -/
def all : List Constraint := [minItems, maxItems, minLength, maxLength, minimum, maximum]

def keyword : Constraint → String
  | minItems => "minItems"
  | maxItems => "maxItems"
  | minLength => "minLength"
  | maxLength => "maxLength"
  | minimum => "minimum"
  | maximum => "maximum"

/-- `bound`: the modifiers of an inclusive bound beside an exclusive one. A flag that is set makes the inclusive bound
strict; an exclusive bound that is a number comes second, with a modifier of its own. -/
def bounds (strict inclusive : String) (bound : Option Number) : Option ExclusiveBound → List (String × Number)
  | some (.limit n) => bound.toList.map (inclusive, ·) ++ [(strict, n)]
  | some (.flag true) => bound.toList.map (strict, ·)
  | some (.flag false) | none => bound.toList.map (inclusive, ·)

/-- The modifiers, with their numbers, that a keyword stands for. -/
def limits (k : Keywords) : Constraint → List (String × Number)
  | minItems => k.minItems.toList.map ("min", ·)
  | maxItems => k.maxItems.toList.map ("max", ·)
  | minLength => k.minLength.toList.map ("min", ·)
  | maxLength => k.maxLength.toList.map ("max", ·)
  | minimum => bounds "gt" "gte" k.minimum k.exclusiveMinimum
  | maximum => bounds "lt" "lte" k.maximum k.exclusiveMaximum

/-- The modifiers that a keyword stands for. -/
def modifiers (k : Keywords) (c : Constraint) : List (Modifier Expr) :=
  (c.limits k).map fun (name, n) => .ofLiteral name (.number n)

end Constraint

/-- `constraint_modifiers`: the modifiers of all constraint keywords, in the order of `Constraint.all`. -/
def Keywords.constraints (k : Keywords) : List (Modifier Expr) := Constraint.all.flatMap (·.modifiers k)

end ApiValidators

/-! ## Building -/

namespace ApiValidators

/-- What a body is built from (`SchemaKind`). -/
inductive Kind where
  | enum (values : List Json)
  | union
  | raw (expression : String)
  | array
  | object
  | number
  | string
  | boolean
  | null
  | unknown
  deriving Repr, DecidableEq

def Kind.ofTypeName : Option String → Kind
  | some "array" => .array
  | some "object" => .object
  | some "integer" => .number
  | some "number" => .number
  | some "string" => .string
  | some "boolean" => .boolean
  | some "null" => .null
  | _ => .unknown

/-- The kind of a body: `enum` wins over branches, those win over a raw expression, and that wins over the type. -/
def Body.kind {σ : Type} (b : Body σ) : Kind :=
  match b.enum with
  | some values => .enum values
  | none =>
    if !b.anyOf.isEmpty || !b.oneOf.isEmpty then .union
    else
      match b.description.bind Remark.raw with
      | some expression => .raw expression
      | none => .ofTypeName b.typeName

/-- `enum_label`: a string stands for itself, any other value for its text. -/
def Json.label : Json → String
  | .string s => s
  | v => String.ofList v.text

/-- One step of `apply_merge`: an object takes the branch in by a merge, anything else gives way to it. -/
def Expr.absorb (e branch : Expr) : Expr := if e.isObjectCall then e.chain [.ofExpr "merge" branch] else branch

namespace Keywords

/-- `apply_format`: the modifier of the format, if that is supported. -/
def formatModifiers (k : Keywords) : List (Modifier Expr) :=
  (k.format.bind formatModifier?).toList.map fun name => ⟨name, []⟩

def defaultModifiers (k : Keywords) : List (Modifier Expr) :=
  k.default.toList.map fun v => .ofLiteral "default" (.ofJson v)

/-- The warning about the format, if that is not supported. -/
def formatWarnings (k : Keywords) : List Warning :=
  match k.format with
  | none => []
  | some format => if (formatModifier? format).isSome then [] else [.unsupportedFormat format]

end Keywords

/-- The modifier of a value that is not required. -/
def NullableMode.modifiers (mode : NullableMode) (required : Bool) : List (Modifier Expr) :=
  if required then [] else [⟨mode.name, []⟩]

/-- The modifiers that a body adds to the expression it starts from, in their order. -/
def Keywords.ownModifiers (k : Keywords) (mode : NullableMode) (required : Bool) : List (Modifier Expr) :=
  k.formatModifiers ++ k.constraints ++ k.defaultModifiers ++ mode.modifiers required

/-- The second half of `build_inline`: the expression of a body, given the one it starts from and those of its `allOf`.
A raw expression stays as it is. -/
def Keywords.finish (k : Keywords) (mode : NullableMode) (required : Bool) (start : Expr) (branches : List Expr) :
    Expr :=
  if start.isCall then (branches.foldl Expr.absorb start).chain (k.ownModifiers mode required) else start

/-- The name of the statement that declares the schema a pointer names. -/
def Pointer.statementName (pointer : String) : String := Naming.exportName "schema" (Pointer.name pointer)

namespace Schema

mutual

/-- `build`: the expression of a schema. -/
def build (mode : NullableMode) (required : Bool) : Schema → Expr
  | reference pointer => .identifier (Pointer.statementName pointer)
  | inline b => buildBody mode required b

/-- `build_inline`, with `base_expression` as its start. -/
def buildBody (mode : NullableMode) (required : Bool) : Body Schema → Expr
  | ⟨own, items, properties, allOf, anyOf, oneOf, extras⟩ =>
    let start : Expr := match Body.kind (σ := Schema) ⟨own, items, properties, allOf, anyOf, oneOf, extras⟩ with
      | .enum values => .ofBase (.enum (values.map Json.label))
      | .union => .ofBase (.union (buildEach mode anyOf ++ buildEach mode oneOf))
      | .raw expression => .identifier expression
      | .array => .ofBase (.array (buildItem mode items))
      | .object => .ofBase (.object (buildMembers mode own properties))
      | .number => .ofBase .number
      | .string => .ofBase .string
      | .boolean => .ofBase .boolean
      | .null => .ofBase .null
      | .unknown => .ofBase .unknown
    own.finish mode required start (buildEach mode allOf)

def buildItem (mode : NullableMode) : Option Schema → Expr
  | none => .ofBase .unknown
  | some s => build mode true s

def buildEach (mode : NullableMode) : List Schema → List Expr
  | [] => []
  | s :: ss => build mode true s :: buildEach mode ss

/-- The members of an object, each as required as the body that holds it says. -/
def buildMembers (mode : NullableMode) (own : Keywords) : List (String × Schema) → List (Member Expr)
  | [] => []
  | (name, s) :: ss =>
    ⟨name, build mode (own.requires name) s, s.description.bind Remark.comment⟩ :: buildMembers mode own ss

end

mutual

/-- What building a schema warns about, in the order in which its parts are built. -/
def buildWarnings : Schema → List Warning
  | reference pointer => Warning.ofPointer pointer
  | inline b => buildBodyWarnings b

def buildBodyWarnings : Body Schema → List Warning
  | ⟨own, items, properties, allOf, anyOf, oneOf, extras⟩ =>
    match Body.kind (σ := Schema) ⟨own, items, properties, allOf, anyOf, oneOf, extras⟩ with
    | .raw _ => []
    | .union => buildEachWarnings anyOf ++ buildEachWarnings oneOf ++ buildEachWarnings allOf ++ own.formatWarnings
    | .array => buildItemWarnings items ++ buildEachWarnings allOf ++ own.formatWarnings
    | .object => buildMembersWarnings properties ++ buildEachWarnings allOf ++ own.formatWarnings
    | _ => buildEachWarnings allOf ++ own.formatWarnings

def buildItemWarnings : Option Schema → List Warning
  | none => []
  | some s => buildWarnings s

def buildEachWarnings : List Schema → List Warning
  | [] => []
  | s :: ss => buildWarnings s ++ buildEachWarnings ss

def buildMembersWarnings : List (String × Schema) → List Warning
  | [] => []
  | (_, s) :: ss => buildWarnings s ++ buildMembersWarnings ss

end

end Schema

end ApiValidators
