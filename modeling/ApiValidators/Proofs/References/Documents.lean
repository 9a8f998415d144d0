import ApiValidators.Proofs.References.Memory

/-!
# Documents whose references resolve

Resolving a document asks for every named schema and then for every parameter schema, path by path
(`Document.mapSchemasM`). It succeeds exactly if all of them are grounded: every name they reach is declared, and none
leads back to itself (`resolve_ok_iff`).
-/

namespace ApiValidators

open Relation

/-! ## Every schema of a document -/

section

variable {m : Type → Type} [Monad m] (component : String → m (Body Schema)) (node : Schema → m (Body Schema))

/-- An entry of a list of parameters with its schema replaced. -/
def ParameterEntry.mapSchemaM : ParameterEntry → m ParameterEntry
  | .reference pointer => pure (.reference pointer)
  | .inline p =>
    match p.schema with
    | none => pure (.inline p)
    | some s => do
      let body ← node s
      pure (.inline { p with schema := some (.inline body) })

def Operation.mapSchemasM : Option Operation → m (Option Operation)
  | none => pure none
  | some o => do
    let parameters ← o.parameters.mapM (ParameterEntry.mapSchemaM node)
    pure (some { o with parameters })

/-- A path with the schemas of its parameters replaced, the shared ones first. -/
def PathItem.mapSchemasM (item : PathItem) : m PathItem := do
  let parameters ← item.parameters.mapM (ParameterEntry.mapSchemaM node)
  let operations ← item.operation.mapM (Operation.mapSchemasM node)
  pure { operation := operations, parameters }

/-- A document with every named schema, given by its name, and every parameter schema replaced. -/
def Document.mapSchemasM (d : Document) : m Document := do
  let schemas ← match d.schemas with
    | none => pure none
    | some named => do
      let bodies ← named.names.mapM component
      pure (some (named.withValues (bodies.map Schema.inline)))
  let items ← d.paths.values.mapM (PathItem.mapSchemasM node)
  pure { d with schemas, paths := d.paths.withValues items }

variable [LawfulMonad m] (openapi : Option String) (paths : Named PathItem)

theorem Document.mapSchemasM_none :
    mapSchemasM component node ⟨openapi, none, paths⟩ = (do
      let items ← paths.values.mapM (PathItem.mapSchemasM node)
      pure ⟨openapi, none, paths.withValues items⟩) :=
  pure_bind none _

theorem Document.mapSchemasM_some (named : Named Schema) :
    mapSchemasM component node ⟨openapi, some named, paths⟩ = (do
      let bodies ← named.names.mapM component
      let items ← paths.values.mapM (PathItem.mapSchemasM node)
      pure ⟨openapi, some (named.withValues (bodies.map Schema.inline)), paths.withValues items⟩) :=
  bind_congr fun bodies => pure_bind (some (named.withValues (bodies.map Schema.inline))) _

end

theorem Resolver.document_eq (d : Document) :
    Resolver.document d = d.mapSchemasM (Resolver.component d.declared) (Resolver.resolve d.declared) := by
  rfl

/-- A document with what its references stand for in their place, found without memory. -/
def Document.substitute (d : Document) : Except ReferenceError Document :=
  d.mapSchemasM (Substitution.component d.declared) (Substitution.resolve d.declared)

namespace Lockstep

variable {m n : Type → Type} [Monad m] [Monad n] (L : Lockstep m n) {f : Schema → m (Body Schema)}
  {g : Schema → n (Body Schema)}

theorem entry (h : ∀ s, L.rel (f s) (g s)) (e : ParameterEntry) : L.rel (e.mapSchemaM f) (e.mapSchemaM g) := by
  rcases e with pointer | ⟨name, location, required, _ | s, description⟩
  · exact L.pure _
  · exact L.pure _
  · exact L.bind (h s) fun _ => L.pure _

variable [LawfulMonad m] [LawfulMonad n]

theorem operation (h : ∀ s, L.rel (f s) (g s)) (o : Option Operation) :
    L.rel (Operation.mapSchemasM f o) (Operation.mapSchemasM g o) := by
  cases o with
  | none => exact L.pure _
  | some o => exact L.bind (L.mapM fun e _ => L.entry h e) fun _ => L.pure _

theorem pathItem (h : ∀ s, L.rel (f s) (g s)) (item : PathItem) : L.rel (item.mapSchemasM f) (item.mapSchemasM g) := by
  refine L.bind (L.mapM fun e _ => L.entry h e) fun _ => L.bind ?_ fun _ => L.pure _
  exact L.bind (L.operation h _) fun _ => L.bind (L.operation h _) fun _ => L.bind (L.operation h _) fun _ =>
    L.bind (L.operation h _) fun _ => L.bind (L.operation h _) fun _ => L.bind (L.operation h _) fun _ =>
      L.bind (L.operation h _) fun _ => L.bind (L.operation h _) fun _ => L.pure _

/-- Replacing the schemas of a document keeps a relation between runs. -/
theorem document {c : String → m (Body Schema)} {c' : String → n (Body Schema)} (hc : ∀ name, L.rel (c name) (c' name))
    (h : ∀ s, L.rel (f s) (g s)) (d : Document) : L.rel (d.mapSchemasM c f) (d.mapSchemasM c' g) := by
  obtain ⟨openapi, _ | named, paths⟩ := d
  · exact L.bind (L.pure none) fun _ => L.bind (L.mapM fun item _ => L.pathItem h item) fun _ => L.pure _
  · refine L.bind (L.mapM fun name _ => hc name) fun _ => L.bind (L.pure _) fun _ => ?_
    exact L.bind (L.mapM fun item _ => L.pathItem h item) fun _ => L.pure _

end Lockstep

/-- **Resolving a document is plain substitution.** -/
theorem Document.resolve_eq_substitute (d : Document) : d.resolve.1 = d.substitute := by
  have h := (Lockstep.under (Progress.Known d.declared)).document Resolver.component_lockstep
    Resolver.resolve_lockstep d {} Progress.known_empty
  rw [← Resolver.document_eq] at h
  exact h.1

/-! ## Failures -/

/-- The schema of an entry given in place, if it has one. -/
def ParameterEntry.schemas : ParameterEntry → List Schema
  | .reference _ => []
  | .inline p => p.schema.toList

def Operation.schemas (o : Operation) : List Schema := o.parameters.flatMap ParameterEntry.schemas

/-- The schemas of a path's parameters: those all its operations share, then those of its operations. -/
def PathItem.schemas (item : PathItem) : List Schema :=
  item.parameters.flatMap ParameterEntry.schemas ++ item.operations.flatMap fun (_, o) => o.schemas

/-- The schemas of all parameters given in place, shared or of an operation, path by path. -/
def Document.parameterSchemas (d : Document) : List Schema := d.paths.values.flatMap PathItem.schemas

/-- The schemas that a document gives directly: the named ones and those of parameters. -/
def Document.schemaRoots (d : Document) : List Schema := d.declared.map Prod.snd ++ d.parameterSchemas

theorem failure?_mapM_flatMap {ε α β γ : Type} {f : α → Except ε β} {g : α → List γ} {φ : γ → Option ε}
    (h : ∀ a, failure? (f a) = (g a).findSome? φ) (l : List α) : failure? (l.mapM f) = (l.flatMap g).findSome? φ :=
  (failure?_mapM f l).trans (findSome?_flatMap fun a _ => h a)

theorem ByMethod.failure?_mapM {ε α β : Type} (f : α → Except ε β) (values : ByMethod α) :
    failure? (values.mapM f) = Method.all.findSome? fun method => failure? (f (values.of method)) := by
  rw [ByMethod.mapM, failure?_bind fun _ => failure?_bind fun _ => failure?_bind fun _ => failure?_bind fun _ =>
    failure?_bind fun _ => failure?_bind fun _ => failure?_bind fun _ => failure?_bind fun _ => failure?_pure _]
  simp only [Method.all, findSome?_cons_or, List.findSome?_nil, ByMethod.of]

section

variable {f : Schema → Except ReferenceError (Body Schema)}

theorem failure?_entry (e : ParameterEntry) :
    failure? (e.mapSchemaM f) = e.schemas.findSome? fun s => failure? (f s) := by
  rcases e with pointer | ⟨name, location, required, _ | s, description⟩
  · rfl
  · rfl
  · simp only [ParameterEntry.mapSchemaM, ParameterEntry.schemas, Option.toList_some, List.findSome?_singleton]
    exact (failure?_bind fun _ => failure?_pure _).trans (Option.or_none ..)

theorem failure?_operation (o : Option Operation) :
    failure? (Operation.mapSchemasM f o) = (o.toList.flatMap Operation.schemas).findSome? fun s => failure? (f s) := by
  cases o with
  | none => rfl
  | some o =>
    simp only [Operation.mapSchemasM, Option.toList_some, List.flatMap_singleton]
    rw [failure?_bind fun _ => failure?_pure _, Option.or_none]
    exact failure?_mapM_flatMap failure?_entry o.parameters

theorem flatMap_operations {α : Type} (item : PathItem) (g : Operation → List α) :
    (item.operations.flatMap fun (_, o) => g o) =
      Method.all.flatMap fun method => (item.operation.of method).toList.flatMap g := by
  unfold PathItem.operations
  generalize Method.all = methods
  induction methods with
  | nil => rfl
  | cons method methods ih =>
    rw [List.flatMap_cons, ← ih, List.filterMap_cons]
    cases item.operation.of method <;> simp

theorem failure?_pathItem (item : PathItem) :
    failure? (item.mapSchemasM f) = item.schemas.findSome? fun s => failure? (f s) := by
  have hops : failure? (item.operation.mapM (Operation.mapSchemasM f)) =
      (item.operations.flatMap fun (_, o) => o.schemas).findSome? fun s => failure? (f s) := by
    rw [ByMethod.failure?_mapM, flatMap_operations]
    exact findSome?_flatMap fun method _ => failure?_operation (item.operation.of method)
  rw [PathItem.mapSchemasM, failure?_bind fun _ => failure?_bind fun _ => failure?_pure _, Option.or_none,
    failure?_mapM_flatMap failure?_entry, hops, PathItem.schemas, List.findSome?_append]

/-- The first failure of a document: that of the first named schema with one, else of the first parameter schema. -/
theorem failure?_document (c : String → Except ReferenceError (Body Schema)) (d : Document) :
    failure? (d.mapSchemasM c f) = ((Entries.names d.declared).findSome? fun name => failure? (c name)).or
      (d.parameterSchemas.findSome? fun s => failure? (f s)) := by
  have hpaths : ∀ schemas, failure? (do
      let items ← d.paths.values.mapM (PathItem.mapSchemasM f)
      pure { d with schemas, paths := d.paths.withValues items }) =
      d.parameterSchemas.findSome? fun s => failure? (f s) := by
    intro schemas
    rw [failure?_bind fun _ => failure?_pure _, Option.or_none, failure?_mapM_flatMap failure?_pathItem]
    rfl
  obtain ⟨openapi, _ | named, paths⟩ := d
  · exact hpaths none
  · exact (failure?_bind fun _ => hpaths _).trans (congrArg (Option.or · _) (failure?_mapM c _))

end

/-! ## When references resolve -/

theorem Document.nodup_declared (d : Document) : (Entries.names d.declared).Nodup := by
  obtain ⟨openapi, _ | named, paths⟩ := d
  · exact List.nodup_nil
  · exact named.nodup

theorem Substitution.resolve_ok_iff_grounded (declared : List (String × Schema)) (s : Schema) :
    failure? (Substitution.resolve declared s) = none ↔ s.Grounded declared := by
  rw [Substitution.resolve, failure?_substitute, List.findSome?_eq_none_iff]
  constructor
  · rintro h n ⟨m, hm, hmn⟩
    obtain ⟨p, hp, rfl⟩ := List.mem_map.1 hm
    exact ((Substitution.named_ok_iff [] _ p).1 (failure?_eq_none_iff.1 (h p hp)) n hmn).2
  · intro h p hp
    refine failure?_eq_none_iff.2 ((Substitution.named_ok_iff [] _ p).2 fun n hn => ?_)
    exact ⟨List.not_mem_nil, h n ⟨_, List.mem_map_of_mem hp, hn⟩⟩

theorem Substitution.component_ok_iff_grounded {declared : List (String × Schema)} {name : String} {s : Schema}
    (hs : Entries.get? name declared = some s) :
    failure? (Substitution.component declared name) = none ↔ s.Grounded declared := by
  rw [Substitution.component, failure?_eq_none_iff, Substitution.named_ok_iff]
  constructor
  · rintro h n ⟨m, hm, hmn⟩
    exact (h n (.head ⟨s, hs, hm⟩ hmn)).2
  · intro h n hn
    have hbelow : TransGen (Mentions declared) name n → Sane declared n := by
      intro hn
      obtain ⟨m, ⟨s', hs', hm⟩, hmn⟩ := TransGen.head'_iff.1 hn
      cases hs.symm.trans hs'
      exact h n ⟨m, hm, hmn⟩
    refine ⟨List.not_mem_nil, ?_⟩
    rcases reflTransGen_iff_eq_or_transGen.1 hn with rfl | hn
    · exact ⟨Entries.exists_get?_iff.1 ⟨s, hs⟩, fun hc => (hbelow hc).2 hc⟩
    · exact hbelow hn

/-- **Resolution succeeds exactly on well-founded references.** A schema resolves if and only if every name reached from
it is declared and none of them leads back to itself, and a document resolves if and only if that holds of each named
schema and of the schema of each parameter given in place. -/
theorem resolve_ok_iff (d : Document) :
    (∀ s, (∃ b, ((Resolver.resolve d.declared s).run.run {}).1 = .ok b) ↔ s.Grounded d.declared) ∧
    ((∃ flat, d.resolve.1 = .ok flat) ↔
      (∀ e ∈ d.declared, e.2.Grounded d.declared) ∧ ∀ s ∈ d.parameterSchemas, s.Grounded d.declared) := by
  refine ⟨fun s => ?_, ?_⟩
  · rw [(Resolver.resolve_lockstep s {} Progress.known_empty).1, ← failure?_eq_none_iff]
    exact Substitution.resolve_ok_iff_grounded d.declared s
  · rw [Document.resolve_eq_substitute, ← failure?_eq_none_iff, Document.substitute, failure?_document,
      Option.or_eq_none_iff, List.findSome?_eq_none_iff, List.findSome?_eq_none_iff]
    refine and_congr ?_ (forall₂_congr fun s _ => Substitution.resolve_ok_iff_grounded d.declared s)
    rw [Entries.names, List.forall_mem_map]
    exact forall₂_congr fun e he => Substitution.component_ok_iff_grounded (Entries.get?_of_mem d.nodup_declared he)

end ApiValidators
