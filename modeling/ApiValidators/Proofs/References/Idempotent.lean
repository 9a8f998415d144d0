import ApiValidators.Proofs.References.Resolved

/-!
# Resolving twice

A walk that answers every schema with itself gives the document back, whatever the monad (`mapSchemasM_eq_pure`).
Plain substitution answers so where there are no references (`substitute_of_flat`), and a resolved document has none
left. So resolving it once more changes nothing (`resolve_idempotent`).
-/

namespace ApiValidators

/-! ## Schemas answered with themselves -/

section

variable {m : Type → Type} [Monad m] [LawfulMonad m] {α β γ : Type}

theorem mapM_eq_pure {f : α → m α} {l : List α} (h : ∀ a ∈ l, f a = pure a) : l.mapM f = pure l := by
  have hpure : l.mapM f = l.mapM (pure : α → m α) := Lockstep.eq.mapM h
  rw [hpure]
  simpa using List.mapM_pure (m := m) (l := l) (f := id)

theorem map_mapM (f : α → m β) (g : β → γ) (l : List α) : List.map g <$> l.mapM f = l.mapM fun a => g <$> f a := by
  induction l with
  | nil => simp
  | cons a l ih =>
    simp only [List.mapM_cons, ← ih, map_bind, bind_map_left, map_pure, List.map_cons]

theorem ByMethod.mapM_eq_pure {f : α → m α} {values : ByMethod α}
    (h : ∀ method, f (values.of method) = pure (values.of method)) : values.mapM f = pure values := by
  have hget := h .get
  have hput := h .put
  have hpost := h .post
  have hdelete := h .delete
  have hoptions := h .options
  have hhead := h .head
  have hpatch := h .patch
  have htrace := h .trace
  simp only [ByMethod.of] at hget hput hpost hdelete hoptions hhead hpatch htrace
  simp only [ByMethod.mapM, hget, hput, hpost, hdelete, hoptions, hhead, hpatch, htrace, pure_bind]

theorem Named.withValues_values (named : Named α) : named.withValues named.values = named := by
  obtain ⟨entries, nodup⟩ := named
  have h : List.zipWith (fun (e : String × α) v => (e.1, v)) entries (entries.map Prod.snd) = entries := by
    rw [List.zipWith_map_right, List.zipWith_self]
    exact List.map_id entries
  simp only [Named.withValues, Named.values, h]

variable {c : String → m (Body Schema)} {f : Schema → m (Body Schema)}

theorem ParameterEntry.mapSchemaM_eq_pure {e : ParameterEntry} (h : ∀ s ∈ e.schemas, Schema.inline <$> f s = pure s) :
    e.mapSchemaM f = pure e := by
  rcases e with pointer | ⟨name, location, required, _ | s, description⟩
  · rfl
  · rfl
  · have hs := h s (by simp [schemas])
    show (f s >>= fun body => pure (inline ⟨name, location, required, some (.inline body), description⟩)) = _
    rw [← bind_map_left Schema.inline (f s) fun t => pure (inline ⟨name, location, required, some t, description⟩), hs,
      pure_bind]

theorem Operation.mapSchemasM_eq_pure {o : Option Operation}
    (h : ∀ s ∈ o.toList.flatMap Operation.schemas, Schema.inline <$> f s = pure s) :
    Operation.mapSchemasM f o = pure o := by
  cases o with
  | none => rfl
  | some o =>
    have hparameters : o.parameters.mapM (ParameterEntry.mapSchemaM f) = pure o.parameters :=
      mapM_eq_pure fun e he => ParameterEntry.mapSchemaM_eq_pure fun s hs =>
        h s (by simpa [Operation.schemas] using ⟨e, he, hs⟩)
    rw [Operation.mapSchemasM, hparameters, pure_bind]

theorem PathItem.mapSchemasM_eq_pure {item : PathItem} (h : ∀ s ∈ item.schemas, Schema.inline <$> f s = pure s) :
    item.mapSchemasM f = pure item := by
  have hparameters : item.parameters.mapM (ParameterEntry.mapSchemaM f) = pure item.parameters :=
    mapM_eq_pure fun e he => ParameterEntry.mapSchemaM_eq_pure fun s hs =>
      h s (List.mem_append_left _ (List.mem_flatMap.2 ⟨e, he, hs⟩))
  have hoperations : item.operation.mapM (Operation.mapSchemasM f) = pure item.operation := by
    refine ByMethod.mapM_eq_pure fun method => Operation.mapSchemasM_eq_pure fun s hs => h s ?_
    have hmethod : method ∈ Method.all := by cases method <;> decide
    rw [PathItem.schemas, flatMap_operations]
    exact List.mem_append_right _ (List.mem_flatMap.2 ⟨method, hmethod, hs⟩)
  rw [PathItem.mapSchemasM, hparameters, pure_bind, hoperations, pure_bind]

/-- **Schemas answered with themselves** give the document back. -/
theorem Document.mapSchemasM_eq_pure {d : Document} (hc : ∀ e ∈ d.declared, Schema.inline <$> c e.1 = pure e.2)
    (hf : ∀ s ∈ d.parameterSchemas, Schema.inline <$> f s = pure s) : d.mapSchemasM c f = pure d := by
  obtain ⟨openapi, schemas, paths⟩ := d
  have hpaths : paths.values.mapM (PathItem.mapSchemasM f) = pure paths.values :=
    mapM_eq_pure fun item hitem => PathItem.mapSchemasM_eq_pure fun s hs =>
      hf s (List.mem_flatMap.2 ⟨item, hitem, hs⟩)
  cases schemas with
  | none => rw [Document.mapSchemasM_none, hpaths, pure_bind, Named.withValues_values]
  | some named =>
    have hentries : (named.entries.mapM fun e => Schema.inline <$> c e.1) = named.entries.mapM fun e => pure e.2 :=
      Lockstep.eq.mapM hc
    have hbodies : List.map Schema.inline <$> named.names.mapM c = pure named.values := by
      rw [map_mapM, Named.names, Entries.names, List.mapM_map, Named.values, ← List.mapM_pure, ← hentries]
      rfl
    rw [Document.mapSchemasM_some, hpaths]
    simp only [pure_bind, Named.withValues_values]
    rw [← bind_map_left (List.map Schema.inline) (named.names.mapM c) fun values =>
      pure (Document.mk openapi (some (named.withValues values)) paths)]
    rw [hbodies, pure_bind, Named.withValues_values]

end

/-! ## Flat documents -/

theorem Substitution.resolve_of_pointers_nil {declared : List (String × Schema)} {s : Schema} (h : s.pointers = []) :
    Schema.inline <$> Substitution.resolve declared s = pure s :=
  Schema.substitute_of_pointers_nil _ s h

theorem Substitution.component_of_pointers_nil {declared : List (String × Schema)} {name : String} {s : Schema}
    (hs : Entries.get? name declared = some s) (h : s.pointers = []) :
    Schema.inline <$> Substitution.component declared name = pure s := by
  rw [Substitution.component, Substitution.named_of_get?_some _ List.not_mem_nil hs]
  exact Schema.substitute_of_pointers_nil _ s h

/-- **A document without references stands for itself.** -/
theorem Document.substitute_of_pointers_nil {d : Document} (h : ∀ s ∈ d.schemaRoots, s.pointers = []) :
    d.substitute = .ok d := by
  refine Document.mapSchemasM_eq_pure (fun e he => ?_) fun s hs => ?_
  · refine Substitution.component_of_pointers_nil (Entries.get?_of_mem d.nodup_declared he) (h e.2 ?_)
    exact List.mem_append_left _ (List.mem_map_of_mem he)
  · exact Substitution.resolve_of_pointers_nil (h s (List.mem_append_right _ hs))

/-- **Resolving twice is resolving once.** A resolved document has no reference at any depth of a named schema or of the
schema of a parameter, and resolving it gives it back as it is. -/
theorem Document.resolve_idempotent {d flat : Document} (h : d.resolve.1 = .ok flat) :
    flat.resolve.1 = .ok flat ∧ ∀ s ∈ flat.schemaRoots, s.pointers = [] := by
  have hflat : ∀ s ∈ flat.schemaRoots, s.pointers = [] := fun s hs =>
    (Document.flat_schemaRoots (P := fun _ => True) h (fun _ _ _ _ => trivial) s hs).pointers_eq_nil
  refine ⟨?_, hflat⟩
  rw [Document.resolve_eq_substitute]
  exact Document.substitute_of_pointers_nil hflat

/-- A list of pets, an alias of it, and a parameter that takes some of them. -/
def petShop : Document where
  schemas := some ⟨[
    ("Pets", .inline { type := some (.one "array"), items := some (.reference "#/components/schemas/Pet") }),
    ("Stock", .reference "#/components/schemas/Pets"),
    ("Pet", .inline { type := some (.one "object") })], by decide⟩
  paths := ⟨[("/pets", {
    operation := .build fun _ => none
    parameters := [.inline {
      name := "like", location := .query, schema := some (.inline { anyOf := [.reference "Stock", .inline {}] }) }] })],
    by decide⟩

theorem resolve_idempotent_petShop : ∃ flat, petShop.resolve.1 = .ok flat ∧ flat ≠ petShop ∧
    flat.resolve.1 = .ok flat := by
  obtain ⟨flat, hflat⟩ : ∃ flat, petShop.resolve.1 = .ok flat := exists_ok_of_isOk (by decide +kernel)
  obtain ⟨hagain, hpointers⟩ := Document.resolve_idempotent hflat
  refine ⟨flat, hflat, fun heq => ?_, hagain⟩
  rw [heq] at hpointers
  exact absurd (hpointers (.reference "#/components/schemas/Pets") (by decide)) (by decide)

end ApiValidators
