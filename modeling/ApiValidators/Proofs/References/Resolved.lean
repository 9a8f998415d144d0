import ApiValidators.Proofs.References.Documents
import ApiValidators.Proofs.References.Flat

/-!
# What a resolved document keeps

Resolving changes the schemas of a document and nothing else: names, paths, methods, operation ids and the entries of
all lists of parameters stay what and where they are (`Document.rel_of_resolve`). Of a parameter only the schema
changes.
-/

namespace ApiValidators

variable {R : Schema → Body Schema → Prop}

/-! ## Documents related part by part -/

/-- The same entry of a list of parameters, its schema replaced by a related body. -/
inductive ParameterEntry.Rel (R : Schema → Body Schema → Prop) : ParameterEntry → ParameterEntry → Prop where
  | reference (pointer : String) : Rel R (reference pointer) (reference pointer)
  | bare {p : Parameter} : p.schema = none → Rel R (inline p) (inline p)
  | schema {p : Parameter} {s : Schema} {b : Body Schema} :
    p.schema = some s → R s b → Rel R (inline p) (inline { p with schema := some (.inline b) })

/-- The same operation, the schemas of its parameters replaced by related bodies. -/
structure Operation.Rel (R : Schema → Body Schema → Prop) (o o' : Operation) : Prop where
  operationId : o'.operationId = o.operationId
  parameters : List.Forall₂ (ParameterEntry.Rel R) o.parameters o'.parameters

/-- The same path, all schemas of parameters replaced by related bodies. -/
structure PathItem.Rel (R : Schema → Body Schema → Prop) (item item' : PathItem) : Prop where
  operation (method : Method) : Option.Rel (Operation.Rel R) (item.operation.of method) (item'.operation.of method)
  parameters : List.Forall₂ (ParameterEntry.Rel R) item.parameters item'.parameters

/-- The same document, each named schema replaced by a body related to its name, and all schemas of parameters replaced
by related bodies. -/
structure Document.Rel (C : String → Body Schema → Prop) (R : Schema → Body Schema → Prop) (d d' : Document) :
    Prop where
  openapi : d'.openapi = d.openapi
  declared : List.Forall₂ (fun e e' => e'.1 = e.1 ∧ ∃ b, C e.1 b ∧ e'.2 = .inline b) d.declared d'.declared
  paths : List.Forall₂ (fun e e' => e'.1 = e.1 ∧ PathItem.Rel R e.2 e'.2) d.paths.entries d'.paths.entries

section

variable {C C' : String → Body Schema → Prop} {R' : Schema → Body Schema → Prop}

theorem ParameterEntry.Rel.imp (hR : ∀ s b, R s b → R' s b) {e e' : ParameterEntry} (h : e.Rel R e') : e.Rel R' e' := by
  cases h with
  | reference pointer => exact .reference pointer
  | bare hnone => exact .bare hnone
  | schema hs hb => exact .schema hs (hR _ _ hb)

theorem Operation.Rel.imp (hR : ∀ s b, R s b → R' s b) {o o' : Operation} (h : o.Rel R o') : o.Rel R' o' :=
  ⟨h.operationId, List.Forall₂.imp (fun _ _ => .imp hR) h.parameters⟩

theorem PathItem.Rel.imp (hR : ∀ s b, R s b → R' s b) {item item' : PathItem} (h : item.Rel R item') :
    item.Rel R' item' := by
  refine ⟨fun method => ?_, List.Forall₂.imp (fun _ _ => .imp hR) h.parameters⟩
  have ho := h.operation method
  generalize item.operation.of method = o, item'.operation.of method = o' at ho
  cases ho with
  | none => exact .none
  | some hrel => exact .some (hrel.imp hR)

/-- A document related to another one by what its names and schemas stand for is so by what follows from that. -/
theorem Document.Rel.imp {d d' : Document} (h : d.Rel C R d') (hC : ∀ name b, C name b → C' name b)
    (hR : ∀ s b, R s b → R' s b) : d.Rel C' R' d' where
  openapi := h.openapi
  declared := h.declared.imp fun _ _ he => ⟨he.1, he.2.imp fun _ hb => ⟨hC _ _ hb.1, hb.2⟩⟩
  paths := h.paths.imp fun _ _ he => ⟨he.1, he.2.imp hR⟩

end

/-! ## Entries of all lists -/

/-- The entries of the lists of parameters of a path: those all its operations share, then those of its operations. -/
def PathItem.entries (item : PathItem) : List ParameterEntry :=
  item.parameters ++ item.operations.flatMap fun (_, o) => o.parameters

/-- The entries of all lists of parameters, path by path. -/
def Document.entries (d : Document) : List ParameterEntry := d.paths.values.flatMap PathItem.entries

theorem Document.parameterSchemas_eq (d : Document) :
    d.parameterSchemas = d.entries.flatMap ParameterEntry.schemas := by
  have hitem : ∀ item : PathItem, item.schemas = item.entries.flatMap ParameterEntry.schemas := by
    intro item
    simp only [PathItem.schemas, PathItem.entries, Operation.schemas, List.flatMap_append, List.flatMap_assoc]
  simp only [parameterSchemas, entries, funext hitem, List.flatMap_assoc]

theorem ParameterEntry.mem_schemas {e : ParameterEntry} {s : Schema} :
    s ∈ e.schemas ↔ ∃ p, e = inline p ∧ p.schema = some s := by
  cases e <;> simp [schemas]

theorem PathItem.Rel.operations {item item' : PathItem} (h : item.Rel R item') :
    List.Forall₂ (fun e e' => e'.1 = e.1 ∧ Operation.Rel R e.2 e'.2) item.operations item'.operations := by
  unfold PathItem.operations
  induction Method.all with
  | nil => exact .nil
  | cons method methods ih =>
    rw [List.filterMap_cons, List.filterMap_cons]
    have ho := h.operation method
    generalize item.operation.of method = o, item'.operation.of method = o' at ho ⊢
    cases ho with
    | none => exact ih
    | some hrel => exact .cons ⟨rfl, hrel⟩ ih

theorem Document.Rel.entries {C : String → Body Schema → Prop} {d d' : Document} (h : d.Rel C R d') :
    List.Forall₂ (ParameterEntry.Rel R) d.entries d'.entries := by
  unfold Document.entries Named.values
  rw [List.flatMap_map, List.flatMap_map]
  refine List.rel_flatMap h.paths fun e e' he => List.rel_append he.2.parameters ?_
  exact List.rel_flatMap he.2.operations fun _ _ ho => ho.2.parameters

/-! ## Replacing schemas -/

section

variable {c : String → Except ReferenceError (Body Schema)} {f : Schema → Except ReferenceError (Body Schema)}

theorem ParameterEntry.rel_of_mapSchemaM {e e' : ParameterEntry} (h : e.mapSchemaM f = .ok e') :
    e.Rel (fun s b => f s = .ok b) e' := by
  rcases e with pointer | p
  · cases h
    exact .reference pointer
  · rcases hp : p.schema with _ | s
    · simp only [mapSchemaM, hp] at h
      cases h
      exact .bare hp
    · simp only [mapSchemaM, hp] at h
      obtain ⟨b, hb, h⟩ := bind_ok_iff.1 h
      cases h
      exact .schema hp hb

theorem Operation.rel_of_mapSchemasM {o o' : Option Operation} (h : Operation.mapSchemasM f o = .ok o') :
    Option.Rel (Operation.Rel fun s b => f s = .ok b) o o' := by
  cases o with
  | none =>
    cases h
    exact .none
  | some o =>
    obtain ⟨parameters, hp, h⟩ := bind_ok_iff.1 h
    cases h
    exact .some ⟨rfl, (listMapM_ok_iff.1 hp).imp fun _ _ => ParameterEntry.rel_of_mapSchemaM⟩

theorem ByMethod.mapM_ok_iff {α β ε : Type} {g : α → Except ε β} {values : ByMethod α} {values' : ByMethod β} :
    values.mapM g = .ok values' ↔ ∀ method, g (values.of method) = .ok (values'.of method) := by
  constructor
  · intro h method
    obtain ⟨get, hget, h⟩ := bind_ok_iff.1 h
    obtain ⟨put, hput, h⟩ := bind_ok_iff.1 h
    obtain ⟨post, hpost, h⟩ := bind_ok_iff.1 h
    obtain ⟨delete, hdelete, h⟩ := bind_ok_iff.1 h
    obtain ⟨options, hoptions, h⟩ := bind_ok_iff.1 h
    obtain ⟨head, hhead, h⟩ := bind_ok_iff.1 h
    obtain ⟨patch, hpatch, h⟩ := bind_ok_iff.1 h
    obtain ⟨trace, htrace, h⟩ := bind_ok_iff.1 h
    cases h
    cases method <;> assumption
  · intro h
    have hget := h .get
    have hput := h .put
    have hpost := h .post
    have hdelete := h .delete
    have hoptions := h .options
    have hhead := h .head
    have hpatch := h .patch
    have htrace := h .trace
    simp only [ByMethod.of] at hget hput hpost hdelete hoptions hhead hpatch htrace
    simp only [ByMethod.mapM, hget, hput, hpost, hdelete, hoptions, hhead, hpatch, htrace]
    rfl

theorem PathItem.rel_of_mapSchemasM {item item' : PathItem} (h : item.mapSchemasM f = .ok item') :
    item.Rel (fun s b => f s = .ok b) item' := by
  obtain ⟨parameters, hp, h⟩ := bind_ok_iff.1 h
  obtain ⟨operations, ho, h⟩ := bind_ok_iff.1 h
  cases h
  exact ⟨fun method => Operation.rel_of_mapSchemasM (ByMethod.mapM_ok_iff.1 ho method),
    (listMapM_ok_iff.1 hp).imp fun _ _ => ParameterEntry.rel_of_mapSchemaM⟩

theorem Named.forall₂_withValues {α β : Type} {S : String × α → β → Prop} {m : Named α} {values : List β}
    (h : List.Forall₂ S m.entries values) :
    List.Forall₂ (fun e e' => e'.1 = e.1 ∧ S e e'.2) m.entries (m.withValues values).entries := by
  change List.Forall₂ _ m.entries (List.zipWith (fun e v => (e.1, v)) m.entries values)
  generalize m.entries = entries at h
  induction h with
  | nil => exact .nil
  | cons hev _ ih => exact .cons ⟨rfl, hev⟩ ih

theorem Document.names_declared (d : Document) : Entries.names d.declared = (d.schemas.map Named.names).getD [] := by
  obtain ⟨openapi, _ | named, paths⟩ := d
  · rfl
  · rfl

/-- The named schemas, where others are put in for them. -/
theorem Document.declared_withValues (d : Document) (values : List Schema) (paths : Named PathItem) :
    Document.declared ⟨d.openapi, d.schemas.map fun named => named.withValues values, paths⟩ =
      List.zipWith (fun e v => (e.1, v)) d.declared values := by
  obtain ⟨openapi, _ | named, paths⟩ := d
  · rfl
  · rfl

/-- What replacing the schemas of a document gives: what is put in for the names, and what is made of the paths. -/
theorem Document.mapSchemasM_ok_iff {d d' : Document} : d.mapSchemasM c f = .ok d' ↔
    ∃ bodies items, (Entries.names d.declared).mapM c = .ok bodies ∧
      d.paths.values.mapM (PathItem.mapSchemasM f) = .ok items ∧
      ⟨d.openapi, d.schemas.map fun named => named.withValues (bodies.map Schema.inline), d.paths.withValues items⟩ =
        d' := by
  obtain ⟨openapi, _ | named, paths⟩ := d
  · rw [Document.mapSchemasM_none, bind_ok_iff]
    constructor
    · rintro ⟨items, hi, ⟨⟩⟩
      exact ⟨[], items, rfl, hi, rfl⟩
    · rintro ⟨bodies, items, -, hi, rfl⟩
      exact ⟨items, hi, rfl⟩
  · rw [Document.mapSchemasM_some, bind_ok_iff]
    constructor
    · rintro ⟨bodies, hb, h⟩
      obtain ⟨items, hi, ⟨⟩⟩ := bind_ok_iff.1 h
      exact ⟨bodies, items, hb, hi, rfl⟩
    · rintro ⟨bodies, items, hb, hi, rfl⟩
      exact ⟨bodies, hb, bind_ok_iff.2 ⟨items, hi, rfl⟩⟩

theorem Document.rel_of_mapSchemasM {d d' : Document} (h : d.mapSchemasM c f = .ok d') :
    d.Rel (fun name b => c name = .ok b) (fun s b => f s = .ok b) d' := by
  obtain ⟨bodies, items, hb, hi, rfl⟩ := Document.mapSchemasM_ok_iff.1 h
  rw [listMapM_ok_iff, Entries.names, List.forall₂_map_left_iff] at hb
  rw [listMapM_ok_iff, Named.values, List.forall₂_map_left_iff] at hi
  refine ⟨rfl, ?_, ?_⟩
  · obtain ⟨openapi, _ | named, paths⟩ := d
    · exact .nil
    · refine Named.forall₂_withValues (S := fun e s => ∃ b, c e.1 = .ok b ∧ s = Schema.inline b) ?_
      rw [List.forall₂_map_right_iff]
      exact hb.imp fun _ b hb => ⟨b, hb, rfl⟩
  · refine Named.forall₂_withValues (S := fun e item => PathItem.Rel (fun s b => f s = .ok b) e.2 item) ?_
    exact hi.imp fun _ _ => PathItem.rel_of_mapSchemasM

theorem Document.names_of_mapSchemasM {d d' : Document} (h : d.mapSchemasM c f = .ok d') :
    d'.schemas.map Named.names = d.schemas.map Named.names := by
  have hnames := Entries.names_of_forall₂ (Document.rel_of_mapSchemasM h).declared
  obtain ⟨bodies, items, -, -, rfl⟩ := Document.mapSchemasM_ok_iff.1 h
  obtain ⟨openapi, _ | named, paths⟩ := d
  · rfl
  · exact congrArg some hnames

end

/-- **Resolving replaces schemas and keeps everything else**: a named schema gives way to what its name stands for, a
parameter's schema to what that schema stands for. -/
theorem Document.rel_of_resolve {d flat : Document} (h : d.resolve.1 = .ok flat) :
    d.Rel (fun name b => Substitution.component d.declared name = .ok b)
      (fun s b => Substitution.resolve d.declared s = .ok b) flat := by
  rw [Document.resolve_eq_substitute] at h
  exact Document.rel_of_mapSchemasM h

/-- **A resolved document is flat**: no reference is left at any depth, and the keywords of each body in it are those of
a body in the document. -/
theorem Document.flat_schemaRoots {P : Keywords → Prop} {d flat : Document} (h : d.resolve.1 = .ok flat)
    (hP : ∀ s ∈ d.schemaRoots, ∀ b, (Schema.inline b).Within s → P b.toKeywords) :
    ∀ s ∈ flat.schemaRoots, s.Flat P := by
  have hrel := Document.rel_of_resolve h
  have hdeclared : ∀ e ∈ d.declared, ∀ c, (Schema.inline c).Within e.2 → P c.toKeywords :=
    fun e he => hP e.2 (List.mem_append_left _ (List.mem_map_of_mem he))
  intro s hs
  rcases List.mem_append.1 hs with hs | hs
  · obtain ⟨e, he, rfl⟩ := List.mem_map.1 hs
    obtain ⟨_, _, _, b, hb, hflat⟩ := exists_of_forall₂ hrel.declared he
    rw [hflat]
    exact Substitution.flat_of_named hdeclared hb
  · rw [Document.parameterSchemas_eq] at hs
    obtain ⟨entry, hentry, hs⟩ := List.mem_flatMap.1 hs
    obtain ⟨p, rfl, hp⟩ := ParameterEntry.mem_schemas.1 hs
    obtain ⟨original, horiginal, hentries⟩ := exists_of_forall₂ hrel.entries hentry
    cases hentries with
    | bare hnone => cases hnone.symm.trans hp
    | @schema _ t b ht hb =>
      cases hp
      refine Substitution.flat_of_resolve hdeclared (hP t (List.mem_append_right _ ?_)) hb
      rw [Document.parameterSchemas_eq]
      exact List.mem_flatMap.2 ⟨_, horiginal, ParameterEntry.mem_schemas.2 ⟨_, rfl, ht⟩⟩

end ApiValidators
