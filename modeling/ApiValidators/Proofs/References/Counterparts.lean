import ApiValidators.Proofs.References.Resolved

/-!
# A schema and its counterpart

Resolving a document replaces references and keeps everything else, at any depth (`Document.resolve_counterparts`).
`Schema.Counterpart` walks a schema and what has become of it in parallel, slot by slot: a body stays as it is up to the
schemas below it, and a reference gives way to the schema that stands in the resolved document under the name it ends
in. That all copies of a named schema are the same one rests on a name standing for the same body wherever it is met
(`Substitution.named_mono`).
-/

namespace ApiValidators

/-! ## Walking two schemas in parallel -/

/-- A schema and what it has become among resolved schemas: a reference has given way to the schema of the name it ends
in; of a body all keywords have stayed, and in each place below it stands the counterpart of what stood there. -/
inductive Schema.Counterpart (resolved : List (String × Schema)) : Schema → Schema → Prop where
  | reference {pointer : String} {t : Schema} : Entries.get? (Pointer.name pointer) resolved = some t →
    Counterpart resolved (reference pointer) t
  | inline {b c : Body Schema} : c.toKeywords = b.toKeywords →
    List.Forall₂ (Counterpart resolved) b.allOf c.allOf →
    List.Forall₂ (Counterpart resolved) b.anyOf c.anyOf →
    List.Forall₂ (Counterpart resolved) b.oneOf c.oneOf →
    Option.Rel (Counterpart resolved) b.items c.items →
    Extras.Rel (Counterpart resolved) b.additionalProperties c.additionalProperties →
    Entries.names c.properties = Entries.names b.properties →
    List.Forall₂ (Counterpart resolved) (b.properties.map Prod.snd) (c.properties.map Prod.snd) →
    Counterpart resolved (inline b) (inline c)

variable {resolved : List (String × Schema)}

/-- Bodies with counterparts in all places are counterparts. -/
theorem Schema.Counterpart.of_rel {b c : Body Schema} (h : b.Rel (Schema.Counterpart resolved) c) :
    (Schema.inline b).Counterpart resolved (.inline c) :=
  .inline h.own h.allOf h.anyOf h.oneOf h.items h.additionalProperties (Entries.names_of_forall₂ h.properties) h.members

/-- **A walk gives the counterpart**, if its answers stand under the names of the references. -/
theorem Schema.counterpart_of_substitute {ε : Type} {answer : String → Except ε (Body Schema)} {s : Schema}
    {b : Body Schema}
    (hanswer : ∀ p ∈ s.pointers, ∀ c, answer p = .ok c → Entries.get? (Pointer.name p) resolved = some (inline c))
    (h : s.substitute answer = .ok b) : s.Counterpart resolved (inline b) := by
  induction s using below_induction generalizing b with
  | reference pointer => exact .reference (hanswer pointer List.mem_cons_self b h)
  | inline c ih =>
    rw [substitute_inline, Body.mapM_ok_iff] at h
    refine .of_rel (h.imp fun s hs t hst => ?_)
    obtain ⟨d, hd, rfl⟩ := map_ok_iff.1 hst
    refine ih s hs (fun p hp => hanswer p ?_) hd
    rw [pointers_inline]
    exact List.mem_flatMap.2 ⟨s, hs, hp⟩

/-! ## Documents -/

variable {d flat : Document}

theorem Document.get?_of_resolve (h : d.resolve.1 = .ok flat) {stack : List String} {name pointer : String}
    {b : Body Schema} (hb : Substitution.named d.declared stack name pointer = .ok b) :
    Entries.get? name flat.declared = some (.inline b) := by
  have halone : Substitution.component d.declared name = .ok b :=
    Substitution.named_mono _ (fun _ hm => absurd hm List.not_mem_nil) hb
  have hrel := Entries.rel_get?
    (R := fun n _ t => ∃ b, Substitution.component d.declared n = .ok b ∧ t = Schema.inline b)
    (Document.rel_of_resolve h).declared name
  obtain ⟨-, s, hg, -⟩ := Substitution.exists_of_named hb
  rw [hg] at hrel
  obtain ⟨t, ht, c, hc, rfl⟩ := exists_of_rel_some hrel
  cases hc.symm.trans halone
  exact ht

/-- What a schema stands for is its counterpart in the resolved document. -/
theorem Document.counterpart_of_resolve (h : d.resolve.1 = .ok flat) {s : Schema} {b : Body Schema}
    (hs : Substitution.resolve d.declared s = .ok b) : s.Counterpart flat.declared (.inline b) :=
  Schema.counterpart_of_substitute (fun _ _ _ hc => Document.get?_of_resolve h hc) hs

/-- **Resolving changes references and nothing else.** The resolved document has the version, the named schemas, the
paths, the operations and the entries of parameters of the document, in their order, and all of them are as they were
except for schemas. A named schema has given way to what its name resolves to; and it, as the schema of a parameter, is
the counterpart of what stood there: in each body of it, at any depth, the keywords have stayed, as have the number and
the order of the schemas below and the names of properties, and in the place of a reference stands the schema that the
resolved document has under the name the reference ends in. -/
theorem Document.resolve_counterparts (h : d.resolve.1 = .ok flat) :
    d.Rel (fun name b => ((Resolver.component d.declared name).run.run {}).1 = .ok b)
      (fun s b => s.Counterpart flat.declared (.inline b)) flat ∧
    flat.schemas.map Named.names = d.schemas.map Named.names ∧
    List.Forall₂ (fun e e' => e'.1 = e.1 ∧ e.2.Counterpart flat.declared e'.2) d.declared flat.declared := by
  have hrel := Document.rel_of_resolve h
  refine ⟨hrel.imp (fun name b hb => ?_) fun s b hb => Document.counterpart_of_resolve h hb, ?_, ?_⟩
  · rw [(Resolver.component_lockstep name {} Progress.known_empty).1]
    exact hb
  · rw [Document.resolve_eq_substitute] at h
    exact Document.names_of_mapSchemasM h
  · refine ((List.forall₂_and_left _ _).2 ⟨fun e he => he, hrel.declared⟩).imp ?_
    rintro e e' ⟨he, hname, b, hb, hflat⟩
    refine ⟨hname, hflat ▸ Document.counterpart_of_resolve h ?_⟩
    exact (Substitution.named_ok_iff_resolve _ (Entries.get?_of_mem d.nodup_declared he)).1 hb

/-- Books by authors, an alias of them, and a parameter that takes several authors. -/
def library : Document where
  openapi := some "3.0.0"
  schemas := some ⟨[
    ("Novel", .reference "#/components/schemas/Book"),
    ("Book", .inline { type := some (.one "object"), properties := [("by", .reference "Author")] }),
    ("Author", .inline { type := some (.one "string"), additionalProperties := some (.flag false) })], by decide⟩
  paths := ⟨[("/books", {
    operation := .build fun
      | .get => some { operationId := some "search", parameters := [.reference "#/components/parameters/Page"] }
      | _ => none
    parameters := [.inline {
      name := "by"
      location := .query
      schema := some (.inline { items := some (.reference "#/components/schemas/Author") }) }] })], by decide⟩

/-- An alias has become the same schema as what it is an alias of. -/
theorem resolve_counterparts_library : ∃ flat, library.resolve.1 = .ok flat ∧
    library.Rel (fun name b => ((Resolver.component library.declared name).run.run {}).1 = .ok b)
      (fun s b => s.Counterpart flat.declared (.inline b)) flat ∧
    Entries.get? "Novel" flat.declared = Entries.get? "Book" flat.declared := by
  obtain ⟨flat, hflat⟩ : ∃ flat, library.resolve.1 = .ok flat := exists_ok_of_isOk (by decide +kernel)
  obtain ⟨hrel, -, hschemas⟩ := Document.resolve_counterparts hflat
  refine ⟨flat, hflat, hrel, ?_⟩
  have hnovel := Entries.rel_get? (R := fun _ => Schema.Counterpart flat.declared) hschemas "Novel"
  have hdeclared : Entries.get? "Novel" library.declared = some (.reference "#/components/schemas/Book") := rfl
  rw [hdeclared] at hnovel
  obtain ⟨t, ht, hcounterpart⟩ := exists_of_rel_some hnovel
  cases hcounterpart with
  | reference hbook => exact ht.trans hbook.symm

end ApiValidators
