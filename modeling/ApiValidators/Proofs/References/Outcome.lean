import ApiValidators.Proofs.References.Pointers

/-!
# What a walk answers

In `Except`, `Schema.substitute` fails with the failure of the first reference, in the order of `Schema.pointers`, whose
answer is a failure (`failure?_substitute`), and gives a body when there is none.
-/

namespace ApiValidators

variable {ε α β : Type}

def failure? : Except ε α → Option ε
  | .error e => some e
  | .ok _ => none

@[simp] theorem failure?_error (e : ε) : failure? (.error e : Except ε α) = some e := rfl

@[simp] theorem failure?_ok (a : α) : failure? (.ok a : Except ε α) = none := rfl

@[simp] theorem failure?_pure (a : α) : failure? (pure a : Except ε α) = none := rfl

theorem failure?_eq_some_iff {x : Except ε α} {e : ε} : failure? x = some e ↔ x = .error e := by
  cases x <;> simp

theorem failure?_eq_none_iff {x : Except ε α} : failure? x = none ↔ ∃ a, x = .ok a := by
  cases x <;> simp

def Lockstep.answered : Lockstep (Except ε) (Except ε) where
  rel x y := ∀ a, x = .ok a → y = .ok a
  pure _ _ h := h
  bind {_ _ x y f g} hx hf b hb := by
    cases x with
    | error e => cases hb
    | ok a =>
      rw [hx a rfl]
      exact hf a b hb

/-- Of two runs in sequence the first failure counts. -/
theorem failure?_bind {x : Except ε α} {f : α → Except ε β} {o : Option ε} (h : ∀ a, failure? (f a) = o) :
    failure? (x >>= f) = (failure? x).or o := by
  cases x with
  | error e => rfl
  | ok a => exact h a

@[simp] theorem failure?_map (f : α → β) (x : Except ε α) : failure? (f <$> x) = failure? x := by
  cases x <;> rfl

theorem findSome?_cons_or (f : α → Option ε) (a : α) (l : List α) :
    (a :: l).findSome? f = (f a).or (l.findSome? f) := by
  rw [List.findSome?_cons]
  cases f a <;> rfl

theorem failure?_mapM (f : α → Except ε β) : ∀ l : List α, failure? (l.mapM f) = l.findSome? fun a => failure? (f a)
  | [] => by simp
  | a :: l => by
    rw [List.mapM_cons, findSome?_cons_or, ← failure?_mapM f l]
    exact failure?_bind fun b => (failure?_bind fun bs => failure?_pure (b :: bs)).trans (Option.or_none ..)

/-- The first failure of walking one level of a body, in the order of `Body.below`. -/
theorem failure?_bodyMapM {σ τ : Type} (f : σ → Except ε τ) (b : Body σ) :
    failure? (b.mapM f) = b.below.findSome? fun s => failure? (f s) := by
  obtain ⟨own, items, properties, allOf, anyOf, oneOf, extras⟩ := b
  have hi : failure? (items.mapM f) = items.toList.findSome? fun s => failure? (f s) := by
    cases items <;> simp
  have hx : failure? (Extras.mapM f extras) = (Extras.schema? extras).toList.findSome? fun s => failure? (f s) := by
    rcases extras with _ | ⟨_ | _⟩ <;> simp [Extras.mapM, Extras.schema?]
  have hp : failure? (properties.mapM fun e => (e.1, ·) <$> f e.2) =
      (properties.map Prod.snd).findSome? fun s => failure? (f s) := by
    simp only [failure?_mapM, failure?_map, List.findSome?_map]
    rfl
  unfold Body.mapM
  rw [failure?_bind fun _ => failure?_bind fun _ => failure?_bind fun _ => failure?_bind fun _ => failure?_bind fun _ =>
    failure?_bind fun _ => failure?_pure _]
  simp only [failure?_mapM, hi, hx, hp, Body.below, List.findSome?_append, Option.or_assoc, Option.or_none]

theorem findSome?_flatMap {f : β → Option ε} {g : α → List β} {φ : α → Option ε} :
    ∀ {l : List α}, (∀ a ∈ l, φ a = (g a).findSome? f) → l.findSome? φ = (l.flatMap g).findSome? f
  | [], _ => rfl
  | a :: l, h => by
    obtain ⟨ha, hl⟩ := List.forall_mem_cons.1 h
    rw [findSome?_cons_or, List.flatMap_cons, List.findSome?_append, ha, findSome?_flatMap hl]

/-- **The first reference without an answer decides**: a walk fails with the failure of the first of the schema's
references that has one. -/
theorem failure?_substitute (answer : String → Except ε (Body Schema)) (s : Schema) :
    failure? (s.substitute answer) = s.pointers.findSome? fun p => failure? (answer p) := by
  induction s using Schema.below_induction with
  | reference pointer => simp [Schema.substitute]
  | inline b ih =>
    rw [Schema.substitute_inline, failure?_bodyMapM, Schema.pointers_inline]
    exact findSome?_flatMap fun s hs => (failure?_map _ _).trans (ih s hs)

end ApiValidators
