import ApiValidators.Proofs.Document.Parameters
import ApiValidators.Proofs.Module.Sections
import ApiValidators.Proofs.References.Resolved
import ApiValidators.Proofs.Validator.Building

/-!
# Statements of operations

The path section and the query section have one statement for each operation with parameters that count at that
location, in the order of the operations (`forall₂_statements`); it is an object with a member for each name among them
(`Parameter.build_object`).
-/

namespace ApiValidators

/-! ## Operations and their places -/

/-- An operation and where it stands in a document. -/
structure Endpoint where
  path : String
  item : PathItem
  method : Method
  operation : Operation

/-- The operations of a document, by path and then by method. -/
def Document.endpoints (d : Document) : List Endpoint :=
  d.paths.entries.flatMap fun (path, item) => item.operations.map fun (method, o) => ⟨path, item, method, o⟩

/-- The section of the statements for parameters at a location. -/
def Location.section? : Location → Option Section
  | path => some .paths
  | query => some .queries
  | header => none
  | cookie => none

namespace Endpoint

def sourceName (e : Endpoint) : String := e.operation.sourceName e.method e.path

def parameters (e : Endpoint) : List (Parameter × Schema) :=
  (e.item.entriesOf e.operation).filterMap ParameterEntry.usable

/-- The parameters of an operation that count, at one location. -/
def located (location : Location) (e : Endpoint) : List (Parameter × Schema) :=
  e.parameters.filter fun (p, _) => p.location == location

def draft (mode : NullableMode) (part : Section) (location : Location) (e : Endpoint) : Draft where
  identifier := Naming.exportName part.kind e.sourceName
  expression := (Schema.inline (Parameter.object (e.located location))).build mode true
  warnings := (Schema.inline (Parameter.object (e.located location))).buildWarnings

/-- A parameter that counts for an operation of a document is one of its entries, with the schema that counts. -/
theorem entry_of_mem_parameters {d : Document} {e : Endpoint} (he : e ∈ d.endpoints) {p : Parameter} {s : Schema}
    (h : (p, s) ∈ e.parameters) : .inline p ∈ d.entries ∧ p.schema = some s := by
  obtain ⟨⟨path, item⟩, hitem, he⟩ := List.mem_flatMap.1 he
  obtain ⟨⟨method, operation⟩, hoperation, rfl⟩ := List.mem_map.1 he
  obtain ⟨entry, hentry, husable⟩ := List.mem_filterMap.1 h
  have hp : entry = .inline p ∧ p.schema = some s := by
    cases entry with
    | reference pointer => cases husable
    | inline q =>
      obtain ⟨t, ht, hpair⟩ := Option.map_eq_some_iff.1 husable
      cases hpair
      exact ⟨rfl, ht⟩
  obtain ⟨rfl, hs⟩ := hp
  refine ⟨List.mem_flatMap.2 ⟨item, List.mem_map_of_mem hitem, ?_⟩, hs⟩
  rcases PathItem.mem_entriesOf hentry with hshared | hown
  · exact List.mem_append_left _ hshared
  · exact List.mem_append_right _ (List.mem_flatMap.2 ⟨_, hoperation, hown⟩)

end Endpoint

/-- The operations with parameters that count at a location, in their order. -/
def Document.served (d : Document) (location : Location) : List Endpoint :=
  d.endpoints.filter fun e => !(e.located location).isEmpty

/-! ## Drafts and statements -/

theorem Document.operationDrafts_eq (mode : NullableMode) (d : Document) :
    d.operationDrafts mode = d.endpoints.map fun e => e.item.operationDrafts mode e.path e.method e.operation := by
  simp only [operationDrafts, endpoints, List.map_flatMap, List.map_map]
  rfl

theorem Section.drafts_endpoints (mode : NullableMode) (d : Document) {part : Section} {location : Location}
    (h : location.section? = some part) :
    part.drafts mode d = (d.served location).map (Endpoint.draft mode part location) := by
  have hdrafts : part.drafts mode d = d.endpoints.filterMap fun e =>
      if (e.located location).isEmpty then none else some (e.draft mode part location) := by
    cases location <;> cases h
    · simp only [drafts, Document.operationDrafts_eq, List.filterMap_map]
      rfl
    · simp only [drafts, Document.operationDrafts_eq, List.filterMap_map]
      rfl
  rw [hdrafts, Document.served]
  induction d.endpoints with
  | nil => rfl
  | cons e es ih =>
    rw [List.filterMap_cons, List.filter_cons]
    cases he : (e.located location).isEmpty
    · exact congrArg (_ :: ·) ih
    · exact ih

/-- **The statements of a section are those of the operations with parameters at its location**, in their order. -/
theorem Section.forall₂_statements (mode : NullableMode) (d : Document) {part : Section} {location : Location}
    (h : location.section? = some part) (taken : List String) :
    List.Forall₂ (fun e s => s.expression = (Schema.inline (Parameter.object (e.located location))).build mode true)
      (d.served location) (part.statements taken (part.drafts mode d)) := by
  have hdrafts := part.forall₂_drafts taken (part.drafts mode d)
  rw [part.drafts_endpoints mode d h] at hdrafts ⊢
  exact (List.forall₂_map_left_iff.1 hdrafts).imp fun _ _ hs => hs.1

/-! ## The object of a statement -/

def Parameter.properties (parameters : List (Parameter × Schema)) : List (String × Schema) :=
  Entries.collect (parameters.map fun (p, s) => (p.name, s.describedBy p.description))

/-- The members of the object for parameters: one for each property, required if a parameter of its name is. -/
def Parameter.members (mode : NullableMode) (parameters : List (Parameter × Schema)) : List (Member Expr) :=
  (properties parameters).map fun (name, s) =>
    s.member mode (parameters.any fun (p, _) => p.name == name && p.required) name

/-- **The object for parameters** has one member for each property, required if one of the parameters of its name is. -/
theorem Parameter.build_object (mode : NullableMode) (parameters : List (Parameter × Schema)) :
    (Schema.inline (Parameter.object parameters)).build mode true =
      .ofBase (.object (members mode parameters)) := by
  have hkind : (Parameter.object parameters).kind = .object := rfl
  have hown : (Parameter.object parameters).ownModifiers mode true = [] := rfl
  have hrequires : ∀ name, (Parameter.object parameters).requires name =
      parameters.any fun (p, _) => p.name == name && p.required := by
    intro name
    rw [Keywords.requires, Bool.eq_iff_iff, List.contains_iff_mem, List.any_eq_true]
    simp only [Parameter.object, List.mem_map, List.mem_filter, Bool.and_eq_true, beq_iff_eq]
    constructor
    · rintro ⟨e, ⟨he, hrequired⟩, hname⟩
      exact ⟨e, he, hname, hrequired⟩
    · rintro ⟨e, he, hname, hrequired⟩
      exact ⟨e, ⟨he, hrequired⟩, hname⟩
  rw [Schema.build_inline]
  simp only [Body.start, hkind, hrequires]
  rfl

/-- Of a name among the parameters there is one member. The last parameter of the name gives the schema. -/
theorem Parameter.filter_members (mode : NullableMode) {parameters : List (Parameter × Schema)} {name : String}
    {p : Parameter} {s : Schema} (hlast : (parameters.filter fun q => q.1.name == name).getLast? = some (p, s)) :
    (members mode parameters).filter (fun m => m.name == name) = [(s.describedBy p.description).member mode
      ((parameters.filter fun q => q.1.name == name).any fun q => q.1.required) name] := by
  have hproperties : (properties parameters).filter (fun e => e.1 == name) = [(name, s.describedBy p.description)] := by
    rw [properties, Entries.filter_of_nodup Entries.nodup_names_collect, Entries.get?_collect, List.filter_map,
      List.getLast?_map]
    simp only [Function.comp_def, hlast, Option.map_some, Option.toList_some, List.map_cons, List.map_nil]
  rw [members, List.filter_map, Function.comp_def]
  simp only [Schema.member] at hproperties ⊢
  rw [hproperties, List.any_filter]
  rfl

end ApiValidators
