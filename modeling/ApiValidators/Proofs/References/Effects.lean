import ApiValidators.Proofs.References.Documents

/-!
# What a walk does

A walk through a schema does, in any monad, what asking for its references one after the other does
(`effect_substitute`), and resolving a document does what asking for its names and then for the schemas of its
parameters does (`effect_document`). Nothing else happens on the way, so what one answer adds to what a run keeps track
of says what the whole run adds.
-/

namespace ApiValidators

/-! ## Effects -/

section

variable {m : Type → Type} [Monad m] {α β γ σ τ : Type}

/-- What a run does, without what it gives. -/
def effect (x : m α) : m Unit := (fun _ => ()) <$> x

theorem forM_congr {f g : α → m Unit} {l : List α} (h : ∀ a ∈ l, f a = g a) : forM l f = forM l g := by
  induction l with
  | nil => rfl
  | cons a l ih =>
    obtain ⟨ha, hl⟩ := List.forall_mem_cons.1 h
    rw [List.forM_cons, List.forM_cons, ha, ih hl]

variable [LawfulMonad m]

@[simp] theorem effect_pure (a : α) : effect (pure a : m α) = pure () := by simp [effect]

@[simp] theorem effect_map (f : α → β) (x : m α) : effect (f <$> x) = effect x := by simp [effect]

/-- A run whose effect does not depend on what the run before it gives. -/
theorem effect_bind {x : m α} {f : α → m β} {y : m Unit} (h : ∀ a, effect (f a) = y) :
    effect (x >>= f) = effect x >>= fun _ => y := by
  simp only [effect, map_bind, bind_map_left] at h ⊢
  simp only [h]

theorem effect_bind_pure (x : m α) (f : α → β) : effect (x >>= fun a => pure (f a)) = effect x := by
  rw [bind_pure_comp, effect_map]

theorem forM_flatMap (f : β → m Unit) (g : α → List β) (l : List α) :
    forM (l.flatMap g) f = forM l fun a => forM (g a) f := by
  induction l with
  | nil => rfl
  | cons a l ih => rw [List.flatMap_cons, List.forM_append, ih, List.forM_cons]

theorem effect_mapM (f : α → m β) (l : List α) : effect (l.mapM f) = forM l fun a => effect (f a) := by
  induction l with
  | nil => simp
  | cons a l ih =>
    rw [List.mapM_cons, List.forM_cons, ← ih]
    exact effect_bind fun b => effect_bind_pure _ _

/-- Walking one level of a body does what is done to the schemas below it, in their order. -/
theorem effect_bodyMapM (f : σ → m τ) (b : Body σ) : effect (b.mapM f) = forM b.below fun s => effect (f s) := by
  obtain ⟨own, items, properties, allOf, anyOf, oneOf, extras⟩ := b
  have hi : effect (items.mapM f) = forM items.toList fun s => effect (f s) := by cases items <;> simp
  have hx : effect (Extras.mapM f extras) = forM (Extras.schema? extras).toList fun s => effect (f s) := by
    rcases extras with _ | ⟨_ | _⟩ <;> simp [Extras.mapM, Extras.schema?]
  have hp : effect (properties.mapM fun e => (e.1, ·) <$> f e.2) =
      forM (properties.map Prod.snd) fun s => effect (f s) := by
    simp only [effect_mapM, effect_map, List.forM_map]
  unfold Body.mapM
  rw [effect_bind fun _ => effect_bind fun _ => effect_bind fun _ => effect_bind fun _ => effect_bind fun _ =>
    effect_bind_pure _ _]
  simp only [effect_mapM, hi, hx, hp, Body.below, List.forM_append, bind_assoc]

/-- **A walk does what asking for its references does**, one after the other. -/
theorem effect_substitute (answer : String → m (Body Schema)) (s : Schema) :
    effect (s.substitute answer) = forM s.pointers fun p => effect (answer p) := by
  induction s using Schema.below_induction with
  | reference pointer => simp [Schema.substitute]
  | inline b ih =>
    rw [Schema.substitute_inline, effect_bodyMapM, Schema.pointers_inline, forM_flatMap]
    refine forM_congr fun s hs => ?_
    rw [effect_map]
    exact ih s hs

/-! ## Documents -/

variable {f : Schema → m (Body Schema)}

theorem effect_entry (e : ParameterEntry) : effect (e.mapSchemaM f) = forM e.schemas fun s => effect (f s) := by
  rcases e with pointer | ⟨name, location, required, _ | s, description⟩
  · simp [ParameterEntry.mapSchemaM, ParameterEntry.schemas]
  · simp [ParameterEntry.mapSchemaM, ParameterEntry.schemas]
  · simp [ParameterEntry.mapSchemaM, ParameterEntry.schemas]

theorem effect_operation (o : Option Operation) :
    effect (Operation.mapSchemasM f o) = forM (o.toList.flatMap Operation.schemas) fun s => effect (f s) := by
  cases o with
  | none => simp [Operation.mapSchemasM]
  | some o =>
    rw [Operation.mapSchemasM, effect_bind_pure, effect_mapM, Option.toList_some, List.flatMap_singleton,
      Operation.schemas, forM_flatMap]
    exact forM_congr fun e _ => effect_entry e

theorem ByMethod.effect_mapM (g : α → m β) (values : ByMethod α) :
    effect (values.mapM g) = forM Method.all fun method => effect (g (values.of method)) := by
  rw [ByMethod.mapM, effect_bind fun _ => effect_bind fun _ => effect_bind fun _ => effect_bind fun _ =>
    effect_bind fun _ => effect_bind fun _ => effect_bind fun _ => effect_bind_pure _ _]
  simp [Method.all, ByMethod.of]

theorem effect_pathItem (item : PathItem) :
    effect (item.mapSchemasM f) = forM item.schemas fun s => effect (f s) := by
  have hparameters : effect (item.parameters.mapM (ParameterEntry.mapSchemaM f)) =
      forM (item.parameters.flatMap ParameterEntry.schemas) fun s => effect (f s) := by
    rw [effect_mapM, forM_flatMap]
    exact forM_congr fun e _ => effect_entry e
  have hoperations : effect (item.operation.mapM (Operation.mapSchemasM f)) =
      forM (Method.all.flatMap fun method => (item.operation.of method).toList.flatMap Operation.schemas)
        fun s => effect (f s) := by
    rw [ByMethod.effect_mapM, forM_flatMap]
    exact forM_congr fun method _ => effect_operation (item.operation.of method)
  rw [PathItem.mapSchemasM, effect_bind fun _ => effect_bind_pure _ _, hparameters, hoperations, PathItem.schemas,
    flatMap_operations, List.forM_append]

/-- **Resolving a document does what asking for its names and for the schemas of its parameters does.** -/
theorem effect_document (c : String → m (Body Schema)) (d : Document) :
    effect (d.mapSchemasM c f) =
      forM (Entries.names d.declared) (fun name => effect (c name)) >>= fun _ =>
        forM d.parameterSchemas fun s => effect (f s) := by
  obtain ⟨openapi, schemas, paths⟩ := d
  have hpaths : effect (paths.values.mapM (PathItem.mapSchemasM f)) =
      forM (paths.values.flatMap PathItem.schemas) fun s => effect (f s) := by
    rw [effect_mapM, forM_flatMap]
    exact forM_congr fun item _ => effect_pathItem item
  cases schemas with
  | none =>
    rw [Document.mapSchemasM_none, effect_bind_pure, hpaths]
    exact (pure_bind () fun _ => forM (paths.values.flatMap PathItem.schemas) fun s => effect (f s)).symm
  | some named =>
    rw [Document.mapSchemasM_some, effect_bind fun _ => effect_bind_pure _ _, hpaths, effect_mapM]
    rfl

end

end ApiValidators
