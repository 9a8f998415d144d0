import ApiValidators.Schema.Basic
import ApiValidators.Source.Tree

/-!
# Reading schemas

`Schema.ofContent?` reads a schema from content. A map with a text under `$ref` is a reference, whatever else it holds;
any other map must fit the keywords of a body, and keys that are no keywords are passed over. Every value is read once,
for all the parts it could play (`Reading`), so the work is linear in the content.
-/

namespace ApiValidators

/-- What a value could be below a schema, next to the value itself. -/
structure Reading where
  content : Content
  schema : Option Schema
  schemas : Option (List Schema)
  properties : Option (List (String × Schema))

namespace Reading

def referenceFields : List String := ["$ref"]

/-- The fields of a body, in the order in which a list gives them. -/
def bodyFields : List String :=
  ["type", "format", "enum", "items", "properties", "required", "allOf", "anyOf", "oneOf", "additionalProperties",
    "minimum", "maximum", "exclusiveMinimum", "exclusiveMaximum", "minLength", "maxLength", "minItems", "maxItems",
    "default", "description"]

def typeNames? (c : Content) : Option TypeNames := (c.asText?.map .one).or (c.asTexts?.map .many)

def exclusiveBound? (c : Content) : Option ExclusiveBound := (c.asBool?.map .flag).or (c.asNumber?.map .limit)

def values? : Content → Option (List Json)
  | .list items => Content.asJsonItems? items
  | _ => none

/-- A field that may be missing, and is read from its content otherwise. -/
def optional {α : Type} (fields : List (String × Reading)) (name : String) (f : Content → Option α) :
    Option (Option α) :=
  match Entries.get? name fields with
  | none => some none
  | some r => Content.asOption? f r.content

/-- A field whose value must fit when it is there, and that is empty when it is missing. -/
def collection {α : Type} (fields : List (String × Reading)) (name : String) (f : Reading → Option (List α)) :
    Option (List α) :=
  match Entries.get? name fields with
  | none => some []
  | some r => f r

/-- A schema that may be missing or null. -/
def optionalSchema (fields : List (String × Reading)) (name : String) : Option (Option Schema) :=
  match Entries.get? name fields with
  | none => some none
  | some ⟨.null, _, _, _⟩ => some none
  | some r => r.schema.map some

def extras? (fields : List (String × Reading)) : Option (Option (Extras Schema)) :=
  match Entries.get? "additionalProperties" fields with
  | none => some none
  | some ⟨.null, _, _, _⟩ => some none
  | some r => ((r.content.asBool?.map .flag).or (r.schema.map .each)).map some

def body? (fields : List (String × Reading)) : Option (Body Schema) := do
  let type ← optional fields "type" typeNames?
  let format ← optional fields "format" Content.asText?
  let enum ← optional fields "enum" values?
  let items ← optionalSchema fields "items"
  let properties ← collection fields "properties" Reading.properties
  let required ← collection fields "required" (·.content.asTexts?)
  let allOf ← collection fields "allOf" Reading.schemas
  let anyOf ← collection fields "anyOf" Reading.schemas
  let oneOf ← collection fields "oneOf" Reading.schemas
  let additionalProperties ← extras? fields
  let minimum ← optional fields "minimum" Content.asNumber?
  let maximum ← optional fields "maximum" Content.asNumber?
  let exclusiveMinimum ← optional fields "exclusiveMinimum" exclusiveBound?
  let exclusiveMaximum ← optional fields "exclusiveMaximum" exclusiveBound?
  let minLength ← optional fields "minLength" Content.asNumber?
  let maxLength ← optional fields "maxLength" Content.asNumber?
  let minItems ← optional fields "minItems" Content.asNumber?
  let maxItems ← optional fields "maxItems" Content.asNumber?
  let default ← match Entries.get? "default" fields with
    | none => some none
    | some r => r.content.asJson?.map some
  let description ← optional fields "description" Content.asText?
  pure {
    type, format, enum, required, minimum, maximum, exclusiveMinimum, exclusiveMaximum, minLength, maxLength, minItems,
    maxItems, default, description, items, properties, allOf, anyOf, oneOf, additionalProperties }

def pointer? (fields : List (String × Reading)) : Option String :=
  (Entries.get? "$ref" fields).bind (·.content.asText?)

/-- A schema with the given fields, as references and as bodies count them. -/
def schema? (asReference asBody : Option (List (String × Reading))) : Option Schema :=
  match asReference.bind pointer? with
  | some pointer => some (.reference pointer)
  | none => (asBody.bind body?).map .inline

def property? (member : Content × Reading) : Option (String × Schema) := do
  let name ← member.1.asText?
  let s ← member.2.schema
  pure (name, s)

mutual

/-- All readings of a value. -/
def of : Content → Reading
  | .list items =>
    let rs := ofItems items
    ⟨.list items, schema? (Content.fieldsAt? referenceFields rs) (Content.fieldsAt? bodyFields rs), rs.mapM schema,
      none⟩
  | .map members =>
    let rs := ofMembers members
    ⟨.map members, schema? (Content.fieldsOf? referenceFields rs) (Content.fieldsOf? bodyFields rs), none,
      (rs.mapM property?).map Entries.collect⟩
  | c => ⟨c, none, none, none⟩

def ofItems : List Content → List Reading
  | [] => []
  | c :: cs => of c :: ofItems cs

def ofMembers : List (Content × Content) → List (Content × Reading)
  | [] => []
  | (k, c) :: rest => (k, of c) :: ofMembers rest

end

end Reading

/-- The schema that content is read as, if it is one. -/
def Schema.ofContent? (c : Content) : Option Schema := (Reading.of c).schema

end ApiValidators
