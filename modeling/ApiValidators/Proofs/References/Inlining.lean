import ApiValidators.Proofs.References.Resolved

/-!
# Inlining a reference

A reference that is replaced by hand, wherever it stands, by the schema declared for the name it ends in leaves the
resolved document as it is (`Document.resolve_of_inlinesTo`). The schema is put in as it is written, with its own
references. So what has to be kept by the induction along the names is not only what a name stands for, but also what
the schema written for it stands for once another schema is declared in its place (`named_of_inlined`).
-/

namespace ApiValidators

/-! ## One reference replaced -/

/-- A body and the same body with one of the schemas directly below it replaced. -/
inductive Body.Replace {σ : Type} (s t : σ) : Body σ → Body σ → Prop where
  | allOf {b : Body σ} {before after : List σ} : b.allOf = before ++ s :: after →
    Replace s t b { b with allOf := before ++ t :: after }
  | anyOf {b : Body σ} {before after : List σ} : b.anyOf = before ++ s :: after →
    Replace s t b { b with anyOf := before ++ t :: after }
  | oneOf {b : Body σ} {before after : List σ} : b.oneOf = before ++ s :: after →
    Replace s t b { b with oneOf := before ++ t :: after }
  | items {b : Body σ} : b.items = some s → Replace s t b { b with items := some t }
  | extras {b : Body σ} : b.additionalProperties = some (.each s) →
    Replace s t b { b with additionalProperties := some (.each t) }
  | property {b : Body σ} {before after : List (String × σ)} {name : String} :
    b.properties = before ++ (name, s) :: after → Replace s t b { b with properties := before ++ (name, t) :: after }

/-- A schema and the same schema with one reference, the schema itself or one at any depth below it, replaced by the
schema that is declared for the name it ends in. -/
inductive Schema.InlinesTo (declared : List (String × Schema)) : Schema → Schema → Prop where
  | here {pointer : String} {s : Schema} : Entries.get? (Pointer.name pointer) declared = some s →
    InlinesTo declared (reference pointer) s
  | inside {b c : Body Schema} {s t : Schema} : b.Replace s t c → InlinesTo declared s t →
    InlinesTo declared (inline b) (inline c)

/-- An entry of a list of parameters with one reference in its schema replaced. -/
inductive ParameterEntry.InlinesTo (declared : List (String × Schema)) : ParameterEntry → ParameterEntry → Prop where
  | schema {p : Parameter} {s t : Schema} : p.schema = some s → s.InlinesTo declared t →
    InlinesTo declared (inline p) (inline { p with schema := some t })

/-- A path with one reference replaced, in a parameter that all its operations share or in one of an operation. -/
inductive PathItem.InlinesTo (declared : List (String × Schema)) : PathItem → PathItem → Prop where
  | shared {item : PathItem} {before after : List ParameterEntry} {e e' : ParameterEntry} :
    item.parameters = before ++ e :: after → e.InlinesTo declared e' →
    InlinesTo declared item { item with parameters := before ++ e' :: after }
  | own {item : PathItem} {method : Method} {o : Operation} {before after : List ParameterEntry}
      {e e' : ParameterEntry} :
    item.operation.of method = some o → o.parameters = before ++ e :: after → e.InlinesTo declared e' →
    InlinesTo declared item { item with
      operation := .build fun m =>
        if m = method then some { o with parameters := before ++ e' :: after } else item.operation.of m }

/-- A document with one reference replaced, in a named schema or in the schema of a parameter. -/
inductive Document.InlinesTo : Document → Document → Prop where
  | component {d : Document} {named named' : Named Schema} {before after : List (String × Schema)} {name : String}
      {s t : Schema} :
    d.schemas = some named → named.entries = before ++ (name, s) :: after → s.InlinesTo d.declared t →
    named'.entries = before ++ (name, t) :: after → InlinesTo d { d with schemas := some named' }
  | parameter {d : Document} {paths : Named PathItem} {before after : List (String × PathItem)} {path : String}
      {item item' : PathItem} :
    d.paths.entries = before ++ (path, item) :: after → item.InlinesTo d.declared item' →
    paths.entries = before ++ (path, item') :: after → InlinesTo d { d with paths := paths }

/-! ## Schemas -/

section

variable {α β σ τ : Type}

/-- Of two lists that differ in one place the second is related to what the first is related to, if that holds of what
stands in this place. -/
theorem forall₂_replace {R : α → β → Prop} {a a' : α} {before after : List α} {r : List β}
    (h : List.Forall₂ R (before ++ a :: after) r) (ha : ∀ b, R a b → R a' b) :
    List.Forall₂ R (before ++ a' :: after) r := by
  induction before generalizing r with
  | nil =>
    cases h with
    | cons hab hrest => exact .cons (ha _ hab) hrest
  | cons c before ih =>
    cases h with
    | cons hcb hrest => exact .cons hcb (ih hrest)

theorem forall₂_of_replaced {R : α → α → Prop} {a b : α} (hsame : ∀ c, R c c) (hab : R a b) (before after : List α) :
    List.Forall₂ R (before ++ a :: after) (before ++ b :: after) :=
  List.rel_append (List.forall₂_same.2 fun c _ => hsame c) (.cons hab (List.forall₂_same.2 fun c _ => hsame c))

/-- A body with a schema replaced is related to what the body is related to, if that holds of the schema. -/
theorem Body.Replace.rel {R : σ → τ → Prop} {s t : σ} {b b' : Body σ} {c : Body τ} (h : b.Replace s t b')
    (hst : ∀ u, R s u → R t u) (hb : b.Rel R c) : b'.Rel R c := by
  cases h with
  | allOf hall => exact { hb with allOf := forall₂_replace (hall ▸ hb.allOf) hst }
  | anyOf hany => exact { hb with anyOf := forall₂_replace (hany ▸ hb.anyOf) hst }
  | oneOf hone => exact { hb with oneOf := forall₂_replace (hone ▸ hb.oneOf) hst }
  | items hitem =>
    obtain ⟨u, hu, hsu⟩ := exists_of_rel_some (hitem ▸ hb.items)
    exact { hb with items := hu ▸ .some (hst u hsu) }
  | extras hextra =>
    have hx : Extras.Rel R (some (.each t)) c.additionalProperties := by
      have hold := hb.additionalProperties
      rw [hextra] at hold
      generalize c.additionalProperties = extras at hold ⊢
      cases hold with
      | each hs => exact .each (hst _ hs)
    exact { hb with additionalProperties := hx }
  | property hmember =>
    have hp := hb.properties
    rw [hmember] at hp
    exact { hb with properties := forall₂_replace hp fun _ he => ⟨he.1, hst _ he.2⟩ }

theorem Body.Replace.mem_below {s t : σ} {b c : Body σ} (h : b.Replace s t c) : s ∈ b.below := by
  obtain ⟨hall, hany, hone, hitem, hextra, hmember⟩ := Body.forall_below (P := (· ∈ b.below)).1 fun _ hs => hs
  cases h with
  | allOf h => exact hall s (h ▸ List.mem_append_right _ List.mem_cons_self)
  | anyOf h => exact hany s (h ▸ List.mem_append_right _ List.mem_cons_self)
  | oneOf h => exact hone s (h ▸ List.mem_append_right _ List.mem_cons_self)
  | items h => exact hitem s h
  | extras h => exact hextra s h
  | @property before after name h =>
    exact hmember (name, s) (h ▸ List.mem_append_right _ List.mem_cons_self)

end

variable {declared : List (String × Schema)}

/-- Inlining a reference does not change what a walk gives, if the answers to the schema's references are what the
declared schemas give. -/
theorem Schema.InlinesTo.substitute {answer : String → Except ReferenceError (Body Schema)} {s t : Schema}
    (h : s.InlinesTo declared t)
    (hanswer : ∀ p ∈ s.pointers, ∀ target c, Entries.get? (Pointer.name p) declared = some target →
      answer p = .ok c → target.substitute answer = .ok c)
    {b : Body Schema} (hs : s.substitute answer = .ok b) : t.substitute answer = .ok b := by
  induction h generalizing b with
  | here htarget => exact hanswer _ List.mem_cons_self _ _ htarget hs
  | inside hreplace _ ih =>
    rw [substitute_inline, Body.mapM_ok_iff] at hs ⊢
    refine hreplace.rel (fun u hu => ?_) hs
    obtain ⟨c, hc, rfl⟩ := map_ok_iff.1 hu
    refine map_ok_iff.2 ⟨c, ih (fun p hp => hanswer p ?_) hc, rfl⟩
    rw [pointers_inline]
    exact List.mem_flatMap.2 ⟨_, hreplace.mem_below, hp⟩

/-! ## Names -/

namespace Substitution

/-- A schema stands for the same with a reference inlined. -/
theorem resolve_of_inlinesTo {s t : Schema} (h : s.InlinesTo declared t) {b : Body Schema}
    (hs : resolve declared s = .ok b) : resolve declared t = .ok b :=
  h.substitute (fun p _ _ _ htarget hc => (named_ok_iff_resolve p htarget).1 hc) hs

section

variable {inlined : List (String × Schema)}

/-- **A name stands for the same where references are inlined** in declared schemas, in each one at most; and so does
the schema that was declared for it. -/
theorem named_of_inlined
    (hinlined : List.Forall₂ (fun e e' => e'.1 = e.1 ∧ (e'.2 = e.2 ∨ e.2.InlinesTo declared e'.2)) declared inlined)
    {stack : List String} {name pointer : String} (other : String) {b : Body Schema}
    (h : named declared stack name pointer = .ok b) :
    named inlined [] name other = .ok b ∧ ∀ s, Entries.get? name declared = some s → resolve inlined s = .ok b := by
  induction stack, name using stack_induction declared generalizing pointer other b with
  | step stack name ih =>
  obtain ⟨hn, s, hg, hbody⟩ := exists_of_named h
  have hs : resolve inlined s = .ok b :=
    Lockstep.answered.substitute (fun p hp _ hc => (ih hn s hg _ (List.mem_map_of_mem hp) p hc).1) b hbody
  have hget := Entries.rel_get? (R := fun _ s t => t = s ∨ Schema.InlinesTo declared s t) hinlined name
  rw [hg] at hget
  obtain ⟨t, ht, hst⟩ := exists_of_rel_some hget
  have htb : resolve inlined t = .ok b := by
    rcases hst with rfl | hst
    · exact hs
    · refine hst.substitute (fun p hp target c htarget hc => ?_) hs
      -- the schema that is put in stands for what the reference stands for, by induction
      obtain ⟨c', hc'⟩ := (named_ok_iff_targets pointer hn hg).1 ⟨b, h⟩ p hp
      obtain ⟨hsame, hschema⟩ := ih hn s hg _ (List.mem_map_of_mem hp) p hc'
      cases hsame.symm.trans hc
      exact hschema target htarget
  refine ⟨(named_ok_iff_resolve other ht).2 htb, fun s' hs' => ?_⟩
  cases hg.symm.trans hs'
  exact hs

end

end Substitution

/-! ## Documents -/

section

variable {f : Schema → Except ReferenceError (Body Schema)}

theorem ParameterEntry.InlinesTo.mapSchemaM (hf : ∀ s t b, s.InlinesTo declared t → f s = .ok b → f t = .ok b)
    {e e' r : ParameterEntry} (h : e.InlinesTo declared e') (he : e.mapSchemaM f = .ok r) :
    e'.mapSchemaM f = .ok r := by
  obtain @⟨p, s, t, hp, hst⟩ := h
  simp only [ParameterEntry.mapSchemaM, hp] at he
  obtain ⟨b, hb, hr⟩ := bind_ok_iff.1 he
  exact bind_ok_iff.2 ⟨b, hf s t b hst hb, hr⟩

theorem PathItem.InlinesTo.mapSchemasM (hf : ∀ s t b, s.InlinesTo declared t → f s = .ok b → f t = .ok b)
    {item item' r : PathItem} (h : item.InlinesTo declared item') (hi : item.mapSchemasM f = .ok r) :
    item'.mapSchemasM f = .ok r := by
  obtain ⟨parameters, hp, hi⟩ := bind_ok_iff.1 hi
  obtain ⟨operations, ho, hr⟩ := bind_ok_iff.1 hi
  cases h with
  | shared hshared he =>
    rw [hshared, listMapM_ok_iff] at hp
    exact bind_ok_iff.2 ⟨_, listMapM_ok_iff.2 (forall₂_replace hp fun _ => he.mapSchemaM hf),
      bind_ok_iff.2 ⟨_, ho, hr⟩⟩
  | @own method o before after e e' hoperation hown he =>
    refine bind_ok_iff.2 ⟨_, hp, bind_ok_iff.2 ⟨_, ByMethod.mapM_ok_iff.2 fun m => ?_, hr⟩⟩
    have hm := ByMethod.mapM_ok_iff.1 ho m
    rw [ByMethod.of_build]
    by_cases hmethod : m = method
    · subst hmethod
      rw [hoperation] at hm
      obtain ⟨own, hlist, hr⟩ := bind_ok_iff.1 hm
      rw [hown, listMapM_ok_iff] at hlist
      rw [if_pos rfl]
      exact bind_ok_iff.2 ⟨_, listMapM_ok_iff.2 (forall₂_replace hlist fun _ => he.mapSchemaM hf), hr⟩
    · rw [if_neg hmethod]
      exact hm

end

theorem Named.withValues_congr {α β : Type} {m m' : Named α} (h : m'.names = m.names) (values : List β) :
    m'.withValues values = m.withValues values := by
  have hentries : ∀ m : Named α, (m.withValues values).entries = List.zipWith Prod.mk m.names values := by
    intro m
    rw [Named.names, Entries.names, List.zipWith_map_left]
    rfl
  have heq : (m'.withValues values).entries = (m.withValues values).entries := by rw [hentries, hentries, h]
  simpa only [Named.withValues, Named.mk.injEq] using heq

/-- Documents of the same names give the same, if their paths do. -/
theorem Document.mapSchemasM_congr {c : String → Except ReferenceError (Body Schema)}
    {f : Schema → Except ReferenceError (Body Schema)} {d d' flat : Document} (hopenapi : d'.openapi = d.openapi)
    (hschemas : d'.schemas.map Named.names = d.schemas.map Named.names) (hpaths : d'.paths.names = d.paths.names)
    (hitems : ∀ items, d.paths.values.mapM (PathItem.mapSchemasM f) = .ok items →
      d'.paths.values.mapM (PathItem.mapSchemasM f) = .ok items)
    (h : d.mapSchemasM c f = .ok flat) : d'.mapSchemasM c f = .ok flat := by
  obtain ⟨bodies, items, hb, hi, rfl⟩ := Document.mapSchemasM_ok_iff.1 h
  have hnames : Entries.names d'.declared = Entries.names d.declared := by
    rw [Document.names_declared, Document.names_declared, hschemas]
  refine Document.mapSchemasM_ok_iff.2 ⟨bodies, items, hnames ▸ hb, hitems items hi, ?_⟩
  rw [hopenapi, Named.withValues_congr hpaths]
  congr 1
  generalize d.schemas = schemas, d'.schemas = schemas' at hschemas
  cases schemas with
  | none =>
    cases schemas' with
    | none => rfl
    | some named' => cases hschemas
  | some named =>
    cases schemas' with
    | none => cases hschemas
    | some named' => exact congrArg some (Named.withValues_congr (Option.some.inj hschemas) _)

/-- **Inlining a reference does not show in the resolved document.** -/
theorem Document.resolve_of_inlinesTo {d d' flat : Document} (h : d.InlinesTo d') (hd : d.resolve.1 = .ok flat) :
    d'.resolve.1 = .ok flat := by
  rw [Document.resolve_eq_substitute] at hd ⊢
  cases h with
  | @component named named' before after name s t hschemas hentries hst hentries' =>
    have hdeclared : d.declared = named.entries := by rw [Document.declared, hschemas]; rfl
    have hinlined : List.Forall₂ (fun e e' => e'.1 = e.1 ∧ (e'.2 = e.2 ∨ e.2.InlinesTo d.declared e'.2)) d.declared
        named'.entries := by
      have hchanged := forall₂_of_replaced
        (R := fun e e' : String × Schema => e'.1 = e.1 ∧ (e'.2 = e.2 ∨ e.2.InlinesTo d.declared e'.2))
        (a := (name, s)) (b := (name, t)) (fun _ => ⟨rfl, .inl rfl⟩) ⟨rfl, .inr hst⟩ before after
      rwa [← hentries, ← hentries', ← hdeclared] at hchanged
    -- a schema changes in place, so every name goes on standing for what it stood for
    have hanswers : ∀ n pointer, Lockstep.answered.rel (Substitution.named d.declared [] n pointer)
        (Substitution.named named'.entries [] n pointer) :=
      fun n pointer b hb => (Substitution.named_of_inlined hinlined pointer hb).1
    have hnames : d.schemas.map Named.names = some named'.names := by
      rw [hschemas]
      exact congrArg some ((congrArg Entries.names hdeclared).symm.trans (Entries.names_of_forall₂ hinlined).symm)
    refine Document.mapSchemasM_congr (d := d) rfl hnames.symm rfl (fun _ hi => hi) ?_
    exact Lockstep.answered.document (fun n => hanswers n _)
      (fun s => Lockstep.answered.substitute fun p _ => hanswers _ p) d flat hd
  | @parameter paths before after path item item' hpaths hitem hpaths' =>
    have hnames : paths.names = d.paths.names := by
      simp [Named.names, Entries.names, hpaths, hpaths']
    refine Document.mapSchemasM_congr (d := d) rfl rfl hnames (fun items hi => ?_) hd
    have hvalues : d.paths.values = before.map Prod.snd ++ item :: after.map Prod.snd := by
      simp [Named.values, hpaths]
    have hvalues' : paths.values = before.map Prod.snd ++ item' :: after.map Prod.snd := by
      simp [Named.values, hpaths']
    rw [hvalues, listMapM_ok_iff] at hi
    rw [hvalues', listMapM_ok_iff]
    exact forall₂_replace hi fun _ => hitem.mapSchemasM fun _ _ _ hst hs => Substitution.resolve_of_inlinesTo hst hs

end ApiValidators
