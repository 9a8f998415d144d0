import ApiValidators.Proofs.Module.SelfContained
import ApiValidators.Proofs.References.Reports

/-!
# Warnings of a run

What a run warns of comes from resolving the document and then from building the flat schemas it gives. Building warns
of a pointer only where a schema has a reference (`Schema.pointer_mem_of_buildWarnings`), so all such warnings come from
resolving, and those are one for each reference that starts in an unusual place (`unusual_pointers_reported`).
-/

namespace ApiValidators

/-- The pointers that are warned of as starting in an unusual place. -/
def Warning.unusualPointers (warnings : List Warning) : List String :=
  warnings.filterMap fun
    | unusualPointer pointer => some pointer
    | _ => none

namespace Warning

theorem mem_unusualPointers {pointer : String} {warnings : List Warning} :
    pointer ∈ unusualPointers warnings ↔ unusualPointer pointer ∈ warnings := by
  rw [unusualPointers, List.mem_filterMap]
  constructor
  · rintro ⟨w, hw, hpointer⟩
    cases w <;> cases hpointer
    exact hw
  · intro h
    exact ⟨_, h, rfl⟩

theorem unusualPointers_append (first second : List Warning) :
    unusualPointers (first ++ second) = unusualPointers first ++ unusualPointers second :=
  List.filterMap_append ..

/-- Of some pointers those are warned of that do not start where named schemas live. -/
theorem unusualPointers_ofPointer (pointers : List String) :
    unusualPointers (pointers.flatMap ofPointer) = pointers.filter fun p => !Pointer.isHome p := by
  induction pointers with
  | nil => rfl
  | cons pointer pointers ih =>
    rw [List.flatMap_cons, unusualPointers_append, ih]
    by_cases h : Pointer.isHome pointer = true
    · simp [ofPointer, unusualPointers, h]
    · simp [ofPointer, unusualPointers, h]

end Warning

/-! ## Building -/

namespace Schema

theorem buildEachWarnings_eq (ss : List Schema) : buildEachWarnings ss = ss.flatMap buildWarnings := by
  induction ss with
  | nil => rfl
  | cons s ss ih => rw [buildEachWarnings, ih, List.flatMap_cons]

theorem buildMembersWarnings_eq (properties : List (String × Schema)) :
    buildMembersWarnings properties = (properties.map Prod.snd).flatMap buildWarnings := by
  induction properties with
  | nil => rfl
  | cons e es ih => rw [buildMembersWarnings, ih, List.map_cons, List.flatMap_cons]

theorem buildItemWarnings_eq (items : Option Schema) :
    buildItemWarnings items = items.toList.flatMap buildWarnings := by
  cases items <;> simp [buildItemWarnings]

/-- What building a body warns of is its format, or comes from a schema below it. -/
theorem mem_buildWarnings_inline {b : Body Schema} {w : Warning} (h : w ∈ (inline b).buildWarnings) :
    w ∈ b.formatWarnings ∨ ∃ s ∈ b.below, w ∈ s.buildWarnings := by
  have hbelow : (∀ s ∈ b.allOf, s ∈ b.below) ∧ (∀ s ∈ b.anyOf, s ∈ b.below) ∧ (∀ s ∈ b.oneOf, s ∈ b.below) ∧
      (∀ s ∈ b.items.toList, s ∈ b.below) ∧ ∀ s ∈ b.properties.map Prod.snd, s ∈ b.below := by
    obtain ⟨hall, hany, hone, hitem, -, hmember⟩ := Body.forall_below (P := (· ∈ b.below)).1 fun _ hs => hs
    exact ⟨hall, hany, hone, fun s hs => hitem s (Option.mem_toList.1 hs), List.forall_mem_map.2 hmember⟩
  obtain ⟨hall, hany, hone, hitem, hmember⟩ := hbelow
  have hpart : ∀ part : List Schema, (∀ s ∈ part, s ∈ b.below) → w ∈ part.flatMap buildWarnings →
      ∃ s ∈ b.below, w ∈ s.buildWarnings := by
    intro part hsub hw
    obtain ⟨s, hs, hw⟩ := List.mem_flatMap.1 hw
    exact ⟨s, hsub s hs, hw⟩
  have hrest : w ∈ buildEachWarnings b.allOf ++ b.formatWarnings →
      w ∈ b.formatWarnings ∨ ∃ s ∈ b.below, w ∈ s.buildWarnings := by
    intro hw
    rw [buildEachWarnings_eq] at hw
    rcases List.mem_append.1 hw with hw | hw
    · exact .inr (hpart _ hall hw)
    · exact .inl hw
  obtain ⟨own, items, properties, allOf, anyOf, oneOf, extras⟩ := b
  simp only [buildWarnings, buildBodyWarnings] at h
  -- by the kind: raw, union, array, object, and those that are built from their branches alone
  split at h
  · cases h
  · rw [List.append_assoc, List.append_assoc, buildEachWarnings_eq anyOf, buildEachWarnings_eq oneOf] at h
    rcases List.mem_append.1 h with hw | h
    · exact .inr (hpart _ hany hw)
    · rcases List.mem_append.1 h with hw | hw
      · exact .inr (hpart _ hone hw)
      · exact hrest hw
  · rw [List.append_assoc, buildItemWarnings_eq] at h
    rcases List.mem_append.1 h with hw | hw
    · exact .inr (hpart _ hitem hw)
    · exact hrest hw
  · rw [List.append_assoc, buildMembersWarnings_eq] at h
    rcases List.mem_append.1 h with hw | hw
    · exact .inr (hpart _ hmember hw)
    · exact hrest hw
  · exact hrest h

/-- **Building warns of a pointer only where there is a reference.** -/
theorem pointer_mem_of_buildWarnings {s : Schema} {pointer : String} (h : .unusualPointer pointer ∈ s.buildWarnings) :
    pointer ∈ s.pointers := by
  induction s using below_induction with
  | reference p =>
    have hw : .unusualPointer pointer ∈ Warning.ofPointer p := h
    by_cases hp : Pointer.isHome p = true
    · simp [Warning.ofPointer, hp] at hw
    · simpa [Warning.ofPointer, hp] using hw
  | inline b ih =>
    rcases mem_buildWarnings_inline h with h | ⟨s, hs, h⟩
    · unfold Keywords.formatWarnings at h
      split at h
      · cases h
      · split at h
        · cases h
        · simp at h
    · rw [pointers_inline]
      exact List.mem_flatMap.2 ⟨s, hs, ih s hs h⟩

end Schema

/-! ## Assembling -/

/-- Names and references to parameters are not warned of as pointers. -/
theorem Section.unusualPointer_not_mem_renamings {taken : List String} {drafts : List Draft} {pointer : String} :
    .unusualPointer pointer ∉ Section.renamings taken drafts := by
  intro h
  obtain ⟨⟨draft, claim⟩, -, hw⟩ := List.mem_filterMap.1 h
  by_cases hrenamed : claim.renamed = true
  · simp [hrenamed] at hw
  · simp [hrenamed] at hw

theorem ParameterEntry.unusualPointer_not_mem_warnings {path : String} {method : Method} {e : ParameterEntry}
    {pointer : String} : .unusualPointer pointer ∉ e.warnings path method := by
  cases e <;> simp [ParameterEntry.warnings]

/-- What the draft of an operation's parameters warns of is what building the object for them warns of. -/
theorem Operation.warnings_draft? {mode : NullableMode} {part : Section} {location : Location} {name : String}
    {parameters : List (Parameter × Schema)} {draft : Draft}
    (h : Operation.draft? mode part location name parameters = some draft) :
    draft.warnings =
      (Schema.inline (Parameter.object (parameters.filter fun (p, _) => p.location == location))).buildWarnings := by
  simp only [Operation.draft?] at h
  split at h
  · cases h
  · cases h
    rfl

/-- A pointer that assembling warns of stands in a named schema or in the object for parameters of an operation. -/
theorem Document.pointer_of_mem_assemble {o : Options} {d : Document} {pointer : String}
    (h : .unusualPointer pointer ∈ (d.assemble o).2) :
    (∃ e ∈ d.declared, pointer ∈ e.2.pointers) ∨
    ∃ e ∈ d.endpoints, ∃ location, pointer ∈ (Schema.inline (Parameter.object (e.located location))).pointers := by
  have hcomponents : .unusualPointer pointer ∈ (d.componentDrafts o.mode).flatMap Draft.warnings →
      ∃ e ∈ d.declared, pointer ∈ e.2.pointers := by
    intro h
    obtain ⟨draft, hdraft, hw⟩ := List.mem_flatMap.1 h
    obtain ⟨e, he, rfl⟩ := List.mem_map.1 hdraft
    exact ⟨e, he, Schema.pointer_mem_of_buildWarnings hw⟩
  have hoperations : .unusualPointer pointer ∈ (d.operationDrafts o.mode).flatMap OperationDrafts.warnings →
      ∃ e ∈ d.endpoints, ∃ location,
        pointer ∈ (Schema.inline (Parameter.object (e.located location))).pointers := by
    intro h
    rw [Document.operationDrafts_eq, List.flatMap_map] at h
    obtain ⟨e, he, hw⟩ := List.mem_flatMap.1 h
    rcases List.mem_append.1 hw with hw | hw
    · obtain ⟨entry, -, hw⟩ := List.mem_flatMap.1 hw
      exact absurd hw ParameterEntry.unusualPointer_not_mem_warnings
    · obtain ⟨draft, hdraft, hw⟩ := List.mem_flatMap.1 hw
      rcases List.mem_append.1 hdraft with hdraft | hdraft
      · rw [Operation.warnings_draft? (Option.mem_toList.1 hdraft)] at hw
        exact ⟨e, he, .path, Schema.pointer_mem_of_buildWarnings hw⟩
      · rw [Operation.warnings_draft? (Option.mem_toList.1 hdraft)] at hw
        exact ⟨e, he, .query, Schema.pointer_mem_of_buildWarnings hw⟩
  have hrenamings := @Section.unusualPointer_not_mem_renamings
  -- drafts and renamings of each section take turns
  simp only [Document.assemble, List.mem_append] at h
  rcases h with (((h | h) | h) | h) | h
  · cases hon : o.components
    · simp [hon] at h
    · exact .inl (hcomponents (by simpa [hon] using h))
  · exact absurd h hrenamings
  · cases hon : o.paths || o.queries
    · simp [hon] at h
    · exact .inr (hoperations (by simpa [hon] using h))
  · exact absurd h hrenamings
  · exact absurd h hrenamings

/-! ## Runs -/

/-- What is assembled from a resolved document is not warned of as a pointer. -/
theorem Document.unusualPointers_assemble {d flat : Document} (h : d.resolve.1 = .ok flat) (o : Options) :
    Warning.unusualPointers (flat.assemble o).2 = [] := by
  have hroots := Document.flat_of_resolve h
  rw [List.eq_nil_iff_forall_not_mem]
  intro pointer hpointer
  rcases Document.pointer_of_mem_assemble (Warning.mem_unusualPointers.1 hpointer) with ⟨e, he, hp⟩ | ⟨e, he, l, hp⟩
  · rw [(hroots e.2 (List.mem_append_left _ (List.mem_map_of_mem he))).pointers_eq_nil] at hp
    cases hp
  · rw [(Document.flat_located h he l).pointers_eq_nil] at hp
    cases hp

/-- **Every reference that starts in an unusual place is reported once.** Resolving a document warns of the pointers of
its references that do not start where named schemas live, each as often as it stands in the document, in a named schema
or in the schema of a parameter, at any depth. A run warns of these pointers and of no further ones, whatever it
generates. -/
theorem Document.unusual_pointers_reported {d flat : Document} (h : d.resolve.1 = .ok flat) :
    (Warning.unusualPointers d.resolve.2).Perm (d.pointers.filter fun p => !Pointer.isHome p) ∧
    ∀ o, Warning.unusualPointers (d.generate o).2 = Warning.unusualPointers d.resolve.2 := by
  constructor
  · rw [← Warning.unusualPointers_ofPointer]
    exact (Document.resolve_warnings h).filterMap _
  · intro o
    have hgenerate : (d.generate o).2 = d.resolve.2 ++ (flat.assemble o).2 := by
      rw [Document.generate]
      rcases hd : d.resolve with ⟨outcome, warnings⟩
      rw [hd] at h
      cases h
      rfl
    rw [hgenerate, Warning.unusualPointers_append, Document.unusualPointers_assemble h, List.append_nil]

/-- Two names and a parameter lead to one schema, in which a reference starts in an unusual place. -/
def sharedDefinition : Document where
  schemas := some ⟨[
    ("Stock", .inline { allOf := [.reference "#/components/schemas/Pets"] }),
    ("Pets", .inline { type := some (.one "array"), items := some (.reference "#/definitions/Pet") }),
    ("Pet", .inline { type := some (.one "object") })], by decide⟩
  paths := ⟨[("/pets", {
    operation := .build fun _ => none
    parameters := [.inline {
      name := "like"
      location := .query
      schema := some (.inline { anyOf := [.reference "#/components/schemas/Pets", .reference "Pet"] }) }] })],
    by decide⟩

/-- It is reported once, as is the one in the parameter. -/
theorem unusual_pointers_reported_shared :
    (Warning.unusualPointers (sharedDefinition.generate {}).2).Perm ["#/definitions/Pet", "Pet"] := by
  obtain ⟨flat, hflat⟩ : ∃ flat, sharedDefinition.resolve.1 = .ok flat := exists_ok_of_isOk (by decide +kernel)
  obtain ⟨hresolve, hgenerate⟩ := Document.unusual_pointers_reported hflat
  rw [hgenerate]
  exact hresolve

end ApiValidators
