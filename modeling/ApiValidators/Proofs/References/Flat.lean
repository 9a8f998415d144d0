import ApiValidators.Proofs.References.Substitution
import Mathlib.Data.List.Forall2

/-!
# What a walk leaves behind

A walk that succeeds gives a body that differs from the walked one only in the schemas below it (`Body.Rel`). When the
answers are flat, that is without references at any depth, so is what it gives (`flat_of_substitute`); and each keyword
in it was a keyword of the schema or of a declared one, which is said by a property that all of these have.
-/

namespace ApiValidators

variable {ε α β σ τ : Type}

/-! ## Runs that succeed -/

theorem bind_ok_iff {x : Except ε α} {f : α → Except ε β} {b : β} :
    (x >>= f) = .ok b ↔ ∃ a, x = .ok a ∧ f a = .ok b := by
  cases x with
  | error e => simp [bind, Except.bind]
  | ok a => simp [bind, Except.bind]

theorem exists_ok_of_isOk {x : Except ε α} (h : x.isOk = true) : ∃ a, x = .ok a := by
  cases x with
  | error e => cases h
  | ok a => exact ⟨a, rfl⟩

theorem map_ok_iff {x : Except ε α} {f : α → β} {b : β} : f <$> x = .ok b ↔ ∃ a, x = .ok a ∧ f a = b := by
  cases x <;> simp

/-- A walk over a list gives the results for its members, one by one. -/
theorem listMapM_ok_iff {f : α → Except ε β} : ∀ {l : List α} {r : List β},
    l.mapM f = .ok r ↔ List.Forall₂ (fun a b => f a = .ok b) l r
  | [], r => by
    rw [List.mapM_nil, List.forall₂_nil_left_iff]
    exact ⟨fun h => by cases h; rfl, fun h => by rw [h]; rfl⟩
  | a :: l, r => by
    rw [List.mapM_cons, bind_ok_iff, List.forall₂_cons_left_iff]
    constructor
    · rintro ⟨b, hb, h⟩
      obtain ⟨bs, hbs, h⟩ := bind_ok_iff.1 h
      cases h
      exact ⟨b, bs, hb, listMapM_ok_iff.1 hbs, rfl⟩
    · rintro ⟨b, bs, hb, hbs, rfl⟩
      exact ⟨b, hb, bind_ok_iff.2 ⟨bs, listMapM_ok_iff.2 hbs, rfl⟩⟩

theorem optionMapM_ok_iff {f : α → Except ε β} {o : Option α} {r : Option β} :
    o.mapM f = .ok r ↔ Option.Rel (fun a b => f a = .ok b) o r := by
  cases o with
  | none =>
    constructor
    · rintro ⟨⟩
      exact .none
    · rintro ⟨⟩
      rfl
  | some a =>
    refine map_ok_iff.trans ⟨?_, ?_⟩
    · rintro ⟨b, hb, rfl⟩
      exact .some hb
    · rintro (hb | _)
      exact ⟨_, hb, rfl⟩

/-! ## Lists related one by one -/

section

variable {R : α → β → Prop} {l : List α} {r : List β}

theorem forall₂_toList {a : Option α} {b : Option β} (h : Option.Rel R a b) : List.Forall₂ R a.toList b.toList := by
  cases h with
  | none => exact .nil
  | some hab => exact .cons hab .nil

theorem exists_of_rel_some {a : α} {o : Option β} (h : Option.Rel R (some a) o) : ∃ b, o = some b ∧ R a b := by
  cases h with
  | some hab => exact ⟨_, rfl, hab⟩

theorem exists_of_forall₂ (h : List.Forall₂ R l r) {b : β} (hb : b ∈ r) : ∃ a ∈ l, R a b := by
  induction h with
  | nil => cases hb
  | @cons a c l r hac _ ih =>
    rcases List.mem_cons.1 hb with rfl | hb
    · exact ⟨a, List.mem_cons_self, hac⟩
    · obtain ⟨a', ha', hab⟩ := ih hb
      exact ⟨a', List.mem_cons_of_mem _ ha', hab⟩

theorem any_of_forall₂ {p : α → Bool} {q : β → Bool} (h : List.Forall₂ R l r) (hpq : ∀ a b, R a b → q b = p a) :
    r.any q = l.any p := by
  induction h with
  | nil => rfl
  | cons hab _ ih => rw [List.any_cons, List.any_cons, hpq _ _ hab, ih]

theorem map_of_forall₂ {γ : Type} {f : α → γ} {g : β → γ} (h : List.Forall₂ R l r) (hfg : ∀ a b, R a b → g b = f a) :
    r.map g = l.map f := by
  induction h with
  | nil => rfl
  | cons hab _ ih => rw [List.map_cons, List.map_cons, hfg _ _ hab, ih]

theorem getLast?_of_forall₂ (h : List.Forall₂ R l r) : Option.Rel R l.getLast? r.getLast? := by
  induction h with
  | nil => exact .none
  | @cons a b l r hab _ ih =>
    rw [List.getLast?_cons, List.getLast?_cons]
    generalize l.getLast? = last, r.getLast? = last' at ih ⊢
    cases ih with
    | none => exact .some hab
    | some hrest => exact .some hrest

theorem isEmpty_of_forall₂ (h : List.Forall₂ R l r) : r.isEmpty = l.isEmpty := by
  cases h <;> rfl

theorem forall₂_comp {γ : Type} {S : β → γ → Prop} {t : List γ} (h : List.Forall₂ R l r) (h' : List.Forall₂ S r t) :
    List.Forall₂ (fun a c => ∃ b, R a b ∧ S b c) l t := by
  induction h generalizing t with
  | nil =>
    cases h'
    exact .nil
  | cons hab _ ih =>
    cases h' with
    | cons hbc hrest => exact .cons ⟨_, hab, hbc⟩ (ih hrest)

end

theorem Entries.names_of_forall₂ {R : String × α → String × β → Prop} {es : List (String × α)} {es' : List (String × β)}
    (h : List.Forall₂ (fun e e' => e'.1 = e.1 ∧ R e e') es es') : names es' = names es :=
  map_of_forall₂ h fun _ _ he => he.1

theorem Entries.rel_get? {R : String → α → β → Prop} {es : List (String × α)} {es' : List (String × β)}
    (h : List.Forall₂ (fun e e' => e'.1 = e.1 ∧ R e.1 e.2 e'.2) es es') (name : String) :
    Option.Rel (R name) (get? name es) (get? name es') := by
  induction h with
  | nil => exact .none
  | @cons e e' es es' he _ ih =>
    obtain ⟨k, v⟩ := e
    obtain ⟨k', v'⟩ := e'
    obtain ⟨rfl, hR⟩ := he
    by_cases hk : k' = name
    · subst hk
      simpa [get?] using Option.Rel.some hR
    · simpa [get?, hk] using ih

/-! ## Bodies related part by part -/

inductive Extras.Rel (R : σ → τ → Prop) : Option (Extras σ) → Option (Extras τ) → Prop where
  | none : Rel R none none
  | flag (b : Bool) : Rel R (some (.flag b)) (some (.flag b))
  | each {s : σ} {t : τ} : R s t → Rel R (some (.each s)) (some (.each t))

/-- Bodies with the same keywords and with related schemas in the same places below them. -/
structure Body.Rel (R : σ → τ → Prop) (b : Body σ) (c : Body τ) : Prop where
  own : c.toKeywords = b.toKeywords
  items : Option.Rel R b.items c.items
  properties : List.Forall₂ (fun e e' => e'.1 = e.1 ∧ R e.2 e'.2) b.properties c.properties
  allOf : List.Forall₂ R b.allOf c.allOf
  anyOf : List.Forall₂ R b.anyOf c.anyOf
  oneOf : List.Forall₂ R b.oneOf c.oneOf
  additionalProperties : Extras.Rel R b.additionalProperties c.additionalProperties

theorem Extras.mapM_ok_iff {f : σ → Except ε τ} {extras : Option (Extras σ)} {extras' : Option (Extras τ)} :
    Extras.mapM f extras = .ok extras' ↔ Extras.Rel (fun s t => f s = .ok t) extras extras' := by
  rcases extras with _ | ⟨flag | s⟩
  · constructor
    · rintro ⟨⟩
      exact .none
    · rintro ⟨⟩
      rfl
  · constructor
    · rintro ⟨⟩
      exact .flag flag
    · rintro ⟨⟩
      rfl
  · refine bind_ok_iff.trans ⟨?_, ?_⟩
    · rintro ⟨t, ht, ⟨⟩⟩
      exact .each ht
    · rintro (_ | _ | ht)
      exact ⟨_, ht, rfl⟩

/-- **Replacing the schemas directly below a body keeps everything else**, and gives nothing but that. -/
theorem Body.mapM_ok_iff {f : σ → Except ε τ} {b : Body σ} {c : Body τ} :
    b.mapM f = .ok c ↔ b.Rel (fun s t => f s = .ok t) c := by
  constructor
  · intro h
    obtain ⟨allOf, hall, h⟩ := bind_ok_iff.1 h
    obtain ⟨anyOf, hany, h⟩ := bind_ok_iff.1 h
    obtain ⟨oneOf, hone, h⟩ := bind_ok_iff.1 h
    obtain ⟨items, hi, h⟩ := bind_ok_iff.1 h
    obtain ⟨extras, hx, h⟩ := bind_ok_iff.1 h
    obtain ⟨properties, hp, h⟩ := bind_ok_iff.1 h
    cases h
    refine ⟨rfl, optionMapM_ok_iff.1 hi, (listMapM_ok_iff.1 hp).imp fun e e' he => ?_, listMapM_ok_iff.1 hall,
      listMapM_ok_iff.1 hany, listMapM_ok_iff.1 hone, Extras.mapM_ok_iff.1 hx⟩
    obtain ⟨t, ht, rfl⟩ := map_ok_iff.1 he
    exact ⟨rfl, ht⟩
  · rintro ⟨hown, hi, hp, hall, hany, hone, hx⟩
    have hp' : b.properties.mapM (fun e => (e.1, ·) <$> f e.2) = .ok c.properties :=
      listMapM_ok_iff.2 (hp.imp fun e e' he => map_ok_iff.2 ⟨e'.2, he.2, Prod.ext he.1.symm rfl⟩)
    unfold Body.mapM
    rw [listMapM_ok_iff.2 hall, listMapM_ok_iff.2 hany, listMapM_ok_iff.2 hone, optionMapM_ok_iff.2 hi,
      Extras.mapM_ok_iff.2 hx, hp', ← hown]
    rfl

theorem Extras.Rel.schema? {R : σ → τ → Prop} {extras : Option (Extras σ)} {extras' : Option (Extras τ)}
    (h : Extras.Rel R extras extras') : Option.Rel R (Extras.schema? extras) (Extras.schema? extras') := by
  cases h with
  | none => exact .none
  | flag => exact .none
  | each hst => exact .some hst

theorem Body.Rel.members {R : σ → τ → Prop} {b : Body σ} {c : Body τ} (h : b.Rel R c) :
    List.Forall₂ R (b.properties.map Prod.snd) (c.properties.map Prod.snd) := by
  rw [List.forall₂_map_left_iff, List.forall₂_map_right_iff]
  exact h.properties.imp fun _ _ he => he.2

theorem Body.Rel.below {R : σ → τ → Prop} {b : Body σ} {c : Body τ} (h : b.Rel R c) :
    List.Forall₂ R b.below c.below :=
  List.rel_append (List.rel_append (List.rel_append (List.rel_append (List.rel_append h.allOf h.anyOf) h.oneOf)
    (forall₂_toList h.items)) (forall₂_toList h.additionalProperties.schema?)) h.members

/-- What related schemas below a body also have in common relates the body, too. -/
theorem Body.Rel.imp {R S : σ → τ → Prop} {b : Body σ} {c : Body τ} (h : b.Rel R c)
    (hRS : ∀ s ∈ b.below, ∀ t, R s t → S s t) : b.Rel S c := by
  obtain ⟨hall, hany, hone, hitem, hextra, hmember⟩ := Body.forall_below.1 hRS
  have heach : ∀ {l : List σ} {r : List τ}, (∀ s ∈ l, ∀ t, R s t → S s t) → List.Forall₂ R l r → List.Forall₂ S l r :=
    fun hl hr => ((List.forall₂_and_left _ _).2 ⟨hl, hr⟩).imp fun _ _ hst => hst.1 _ hst.2
  refine ⟨h.own, ?_, ?_, heach hall h.allOf, heach hany h.anyOf, heach hone h.oneOf, ?_⟩
  · have hi := h.items
    generalize b.items = items, c.items = items' at hi hitem
    cases hi with
    | none => exact .none
    | some hst => exact .some (hitem _ rfl _ hst)
  · exact ((List.forall₂_and_left _ _).2 ⟨hmember, h.properties⟩).imp fun _ _ he => ⟨he.2.1, he.1 _ he.2.2⟩
  · have hx := h.additionalProperties
    generalize b.additionalProperties = extras, c.additionalProperties = extras' at hx hextra
    cases hx with
    | none => exact .none
    | flag flag => exact .flag flag
    | each hst => exact .each (hextra _ rfl _ hst)

/-! ## Schemas without references -/

namespace Schema

/-- A schema is another one or stands below it, at any depth. -/
inductive Within (t : Schema) : Schema → Prop where
  | here : Within t t
  | inside {s : Schema} {b : Body Schema} : s ∈ b.below → Within t s → Within t (inline b)

/-- A schema has no reference at any depth, and the keywords of each body in it have a property. -/
inductive Flat (P : Keywords → Prop) : Schema → Prop where
  | inline {b : Body Schema} : P b.toKeywords → (∀ s ∈ b.below, Flat P s) → Flat P (inline b)

variable {P : Keywords → Prop}

theorem Flat.pointers_eq_nil {s : Schema} (h : s.Flat P) : s.pointers = [] := by
  induction h with
  | inline _ _ ih => rw [pointers_inline, List.flatMap_eq_nil_iff.2 ih]

theorem Flat.of_within {s t : Schema} (h : s.Flat P) (ht : t.Within s) : t.Flat P := by
  induction ht with
  | here => exact h
  | inside hs _ ih =>
    obtain ⟨_, hbelow⟩ := h
    exact ih (hbelow _ hs)

/-- **A walk with flat answers leaves no reference behind**, and its bodies have the keywords of the schema that is
walked or of the answers. -/
theorem flat_of_substitute {answer : String → Except ε (Body Schema)} {s : Schema} {b : Body Schema}
    (hown : ∀ c, (inline c).Within s → P c.toKeywords)
    (hanswer : ∀ p ∈ s.pointers, ∀ c, answer p = .ok c → (inline c).Flat P)
    (h : s.substitute answer = .ok b) : (inline b).Flat P := by
  induction s using below_induction generalizing b with
  | reference pointer => exact hanswer pointer List.mem_cons_self b h
  | inline c ih =>
    rw [substitute_inline] at h
    have hrel := Body.mapM_ok_iff.1 h
    refine .inline (hrel.own ▸ hown c .here) fun t ht => ?_
    obtain ⟨s, hs, hst⟩ := exists_of_forall₂ hrel.below ht
    obtain ⟨d, hd, rfl⟩ := map_ok_iff.1 hst
    refine ih s hs (fun c' hc' => hown c' (.inside hs hc')) (fun p hp => hanswer p ?_) hd
    rw [pointers_inline]
    exact List.mem_flatMap.2 ⟨s, hs, hp⟩

end Schema

namespace Substitution

variable {declared : List (String × Schema)} {P : Keywords → Prop}

/-- What a name stands for is flat, with keywords of declared schemas. -/
theorem flat_of_named (hdeclared : ∀ e ∈ declared, ∀ c, (Schema.inline c).Within e.2 → P c.toKeywords)
    {stack : List String} {name pointer : String} {b : Body Schema} (h : named declared stack name pointer = .ok b) :
    (Schema.inline b).Flat P := by
  induction stack, name using stack_induction declared generalizing pointer b with
  | step stack name ih =>
  obtain ⟨hn, s, hg, h⟩ := exists_of_named h
  refine Schema.flat_of_substitute (hdeclared (name, s) (Entries.mem_of_get? hg)) (fun p hp c hc => ?_) h
  exact ih hn s hg _ (List.mem_map_of_mem hp) hc

/-- What a schema stands for is flat, with keywords of its own or of declared schemas. -/
theorem flat_of_resolve (hdeclared : ∀ e ∈ declared, ∀ c, (Schema.inline c).Within e.2 → P c.toKeywords)
    {s : Schema} (hown : ∀ c, (Schema.inline c).Within s → P c.toKeywords) {b : Body Schema}
    (h : resolve declared s = .ok b) : (Schema.inline b).Flat P :=
  Schema.flat_of_substitute hown (fun _ _ _ hc => flat_of_named hdeclared hc) h

end Substitution

end ApiValidators
