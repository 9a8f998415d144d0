import ApiValidators.Json.Basic

/-!
# Schemas

A schema is a reference, given by a pointer, or a body. A body holds keywords of its own (`Keywords`) and schemas below
it (`Body`); of the latter, `Body.below` lists all, in the order in which every walk through a schema visits them.

`Schema.flatten` puts an answer in the place of every reference, at any depth, and keeps everything else. Where answers
come from, and what asking for them does, is left to a monad. A body without references is not walked.
-/

/-! ## Pointers -/

namespace ApiValidators.Pointer

/-- `COMPONENT_SCHEMAS_POINTER`: where named schemas live. -/
def home : String := "#/components/schemas"

/-- `schema_name_from_ref`: the name a pointer ends in, what follows its last slash. -/
def name (pointer : String) : String := String.ofList (pointer.toList.reverse.takeWhile (· != '/')).reverse

/-- Whether a pointer starts where named schemas live. -/
def isHome (pointer : String) : Bool := home.toList.isPrefixOf pointer.toList

def ofName (name : String) : String := home ++ "/" ++ name

end ApiValidators.Pointer

/-! ## Schemas -/

namespace ApiValidators

/-- The `type` keyword (`TypeDecl`): one name, or a list of names. -/
inductive TypeNames where
  | one (name : String)
  | many (names : List String)
  deriving Repr, DecidableEq

/-- An exclusive bound: a flag on the inclusive bound beside it, or a bound in its own right. -/
inductive ExclusiveBound where
  | flag (b : Bool)
  | limit (n : Number)
  deriving Repr, DecidableEq

/-- The keywords of a body (`InlineSchema`) that hold no schema. -/
structure Keywords where
  type : Option TypeNames := none
  format : Option String := none
  enum : Option (List Json) := none
  required : List String := []
  minimum : Option Number := none
  maximum : Option Number := none
  exclusiveMinimum : Option ExclusiveBound := none
  exclusiveMaximum : Option ExclusiveBound := none
  minLength : Option Number := none
  maxLength : Option Number := none
  minItems : Option Number := none
  maxItems : Option Number := none
  /-- An explicit null is a default. -/
  default : Option Json := none
  description : Option String := none
  deriving Repr, DecidableEq, Inhabited

/-- The `additionalProperties` keyword (`AdditionalProperties`): a flag, or what holds of every further property. -/
inductive Extras (σ : Type) where
  | flag (b : Bool)
  | each (schema : σ)
  deriving Repr

/-- A body (`InlineSchema`) whose subschemas are of type `σ`. -/
structure Body (σ : Type) extends Keywords where
  items : Option σ := none
  properties : List (String × σ) := []
  allOf : List σ := []
  anyOf : List σ := []
  oneOf : List σ := []
  additionalProperties : Option (Extras σ) := none
  deriving Repr, Inhabited

/-- A schema: a reference to a named schema, or a body. -/
inductive Schema where
  | reference (pointer : String)
  | inline (body : Body Schema)
  deriving Repr, Inhabited

/-- The schema that stands for every further property, if there is one. -/
def Extras.schema? {σ : Type} : Option (Extras σ) → Option σ
  | some (each s) => some s
  | _ => none

/-- `children`: every schema directly below a body. -/
def Body.below {σ : Type} (b : Body σ) : List σ :=
  b.allOf ++ b.anyOf ++ b.oneOf ++ b.items.toList ++ (Extras.schema? b.additionalProperties).toList ++
    b.properties.map Prod.snd

/-- `is_required`: whether a body requires one of its properties. -/
def Keywords.requires (k : Keywords) (property : String) : Bool := k.required.contains property

/-- `primary`: the type name that decides what is built, the first that is not `null`, else the first. -/
def TypeNames.primary : TypeNames → Option String
  | one name => some name
  | many names => (names.find? (· != "null")).or names.head?

def Keywords.typeName (k : Keywords) : Option String := k.type.bind TypeNames.primary

namespace Schema

/-- The description of a schema; a reference has none. -/
def description : Schema → Option String
  | reference _ => none
  | inline b => b.description

/-! ## Equality -/

mutual

def decEq : (a b : Schema) → Decidable (a = b)
  | reference p, reference q => decidable_of_iff (p = q) (by simp)
  | inline a, inline b => have := decEqBody a b; decidable_of_iff (a = b) (by simp)
  | reference _, inline _ | inline _, reference _ => isFalse (by simp)
  termination_by structural s => s

def decEqBody : (a b : Body Schema) → Decidable (a = b)
  | ⟨k, i, p, all, any, one, e⟩, ⟨k', i', p', all', any', one', e'⟩ =>
    have := decEqOption i i'
    have := decEqProperties p p'
    have := decEqEach all all'
    have := decEqEach any any'
    have := decEqEach one one'
    have := decEqExtras e e'
    decidable_of_iff (k = k' ∧ i = i' ∧ p = p' ∧ all = all' ∧ any = any' ∧ one = one' ∧ e = e') (by simp)
  termination_by structural b => b

def decEqOption : (a b : Option Schema) → Decidable (a = b)
  | none, none => isTrue rfl
  | some a, some b => have := decEq a b; decidable_of_iff (a = b) (by simp)
  | none, some _ | some _, none => isFalse (by simp)
  termination_by structural s => s

def decEqEach : (a b : List Schema) → Decidable (a = b)
  | [], [] => isTrue rfl
  | a :: as, b :: bs => have := decEq a b; have := decEqEach as bs; decidable_of_iff (a = b ∧ as = bs) (by simp)
  | [], _ :: _ | _ :: _, [] => isFalse (by simp)
  termination_by structural s => s

def decEqProperties : (a b : List (String × Schema)) → Decidable (a = b)
  | [], [] => isTrue rfl
  | (m, a) :: as, (n, b) :: bs =>
    have := decEq a b
    have := decEqProperties as bs
    decidable_of_iff ((m = n ∧ a = b) ∧ as = bs) (by simp)
  | [], _ :: _ | _ :: _, [] => isFalse (by simp)
  termination_by structural s => s

def decEqExtras : (a b : Option (Extras Schema)) → Decidable (a = b)
  | none, none => isTrue rfl
  | some (.flag a), some (.flag b) => decidable_of_iff (a = b) (by simp)
  | some (.each a), some (.each b) => have := decEq a b; decidable_of_iff (a = b) (by simp)
  | none, some _ | some _, none | some (.flag _), some (.each _) | some (.each _), some (.flag _) =>
    isFalse (by simp)
  termination_by structural s => s

end

instance : DecidableEq Schema := decEq
instance : DecidableEq (Body Schema) := decEqBody

/-! ## References below a schema -/

mutual

/-- Whether the schema is a reference or has one below it, at any depth. -/
def refers : Schema → Bool
  | reference _ => true
  | inline b => refersBody b

/-- Whether there is a reference below a body, at any depth. -/
def refersBody : Body Schema → Bool
  | ⟨_, items, properties, allOf, anyOf, oneOf, extras⟩ =>
    refersEach allOf || refersEach anyOf || refersEach oneOf || refersOption items || refersExtras extras ||
      refersProperties properties

def refersOption : Option Schema → Bool
  | none => false
  | some s => refers s

def refersEach : List Schema → Bool
  | [] => false
  | s :: ss => refers s || refersEach ss

def refersProperties : List (String × Schema) → Bool
  | [] => false
  | (_, s) :: ss => refers s || refersProperties ss

def refersExtras : Option (Extras Schema) → Bool
  | some (.each s) => refers s
  | some (.flag _) | none => false

end

end Schema

/-- `contains_reference`: whether there is a reference below a body, at any depth. -/
def Body.containsReference (b : Body Schema) : Bool := Schema.refersBody b

end ApiValidators

/-! ## Flattening -/

namespace ApiValidators.Schema

section

variable {m : Type → Type} [Monad m] (answer : String → m (Body Schema))

mutual

/-- The schema as a body, an answer in the place of every reference. -/
def flatten : Schema → m (Body Schema)
  | reference pointer => answer pointer
  | inline b => flattenBody b

/-- `resolve_inline`: `flatten` for a body. -/
def flattenBody : Body Schema → m (Body Schema)
  | ⟨own, items, properties, allOf, anyOf, oneOf, extras⟩ =>
    if refersBody ⟨own, items, properties, allOf, anyOf, oneOf, extras⟩ then do
      let allOf ← flattenEach allOf
      let anyOf ← flattenEach anyOf
      let oneOf ← flattenEach oneOf
      let items ← flattenOption items
      let extras ← flattenExtras extras
      let properties ← flattenProperties properties
      pure ⟨own, items, properties, allOf, anyOf, oneOf, extras⟩
    else pure ⟨own, items, properties, allOf, anyOf, oneOf, extras⟩

def flattenOption : Option Schema → m (Option Schema)
  | none => pure none
  | some s => do
    let b ← flatten s
    pure (some (inline b))

/-- `resolve_each`: `flatten` for a list of schemas. -/
def flattenEach : List Schema → m (List Schema)
  | [] => pure []
  | s :: ss => do
    let b ← flatten s
    let bs ← flattenEach ss
    pure (inline b :: bs)

def flattenProperties : List (String × Schema) → m (List (String × Schema))
  | [] => pure []
  | (name, s) :: ss => do
    let b ← flatten s
    let bs ← flattenProperties ss
    pure ((name, inline b) :: bs)

def flattenExtras : Option (Extras Schema) → m (Option (Extras Schema))
  | some (.each s) => do
    let b ← flatten s
    pure (some (.each (inline b)))
  | some (.flag b) => pure (some (.flag b))
  | none => pure none

end

end

end ApiValidators.Schema
