import ApiValidators.Schema.Basic
import Mathlib.Tactic.Common

/-!
# Walking a schema

`Schema.flatten` passes over bodies without references. `Schema.substitute` is the walk that passes over nothing: it
visits every part, in the order of `Body.below`. The two agree in every monad (`flatten_eq_substitute`), so that nothing
is lost by the short cut. Both are told by what they do to one body (`Body.mapM`), and facts about them go by
`Schema.below_induction`.
-/

namespace ApiValidators

/-! ## One level of a body -/

section

variable {m : Type → Type} [Monad m] {σ τ : Type}

def Extras.mapM (f : σ → m τ) : Option (Extras σ) → m (Option (Extras τ))
  | some (.each s) => do
    let t ← f s
    pure (some (.each t))
  | some (.flag b) => pure (some (.flag b))
  | none => pure none

/-- A body with every schema directly below it replaced, in the order of `Body.below`. -/
def Body.mapM (f : σ → m τ) (b : Body σ) : m (Body τ) := do
  let allOf ← b.allOf.mapM f
  let anyOf ← b.anyOf.mapM f
  let oneOf ← b.oneOf.mapM f
  let items ← b.items.mapM f
  let extras ← Extras.mapM f b.additionalProperties
  let properties ← b.properties.mapM fun e => (e.1, ·) <$> f e.2
  pure ⟨b.toKeywords, items, properties, allOf, anyOf, oneOf, extras⟩

end

theorem Body.forall_below {σ : Type} {P : σ → Prop} {b : Body σ} :
    (∀ s ∈ b.below, P s) ↔ (∀ s ∈ b.allOf, P s) ∧ (∀ s ∈ b.anyOf, P s) ∧ (∀ s ∈ b.oneOf, P s) ∧
      (∀ s, b.items = some s → P s) ∧ (∀ s, b.additionalProperties = some (.each s) → P s) ∧
      ∀ e ∈ b.properties, P e.2 := by
  obtain ⟨own, items, properties, allOf, anyOf, oneOf, extras⟩ := b
  have hi : (∀ s ∈ items.toList, P s) ↔ ∀ s, items = some s → P s := by cases items <;> simp
  have hx : (∀ s ∈ (Extras.schema? extras).toList, P s) ↔ ∀ s, extras = some (.each s) → P s := by
    rcases extras with _ | ⟨_ | _⟩ <;> simp [Extras.schema?]
  simp only [Body.below, List.forall_mem_append, hi, hx, List.forall_mem_map, and_assoc]

/-! ## Two runs in lockstep -/

/-- A relation between the runs of two monads that sequencing keeps. -/
structure Lockstep (m n : Type → Type) [Monad m] [Monad n] where
  rel : {α : Type} → m α → n α → Prop
  pure : ∀ {α : Type} (a : α), rel (Pure.pure a) (Pure.pure a)
  bind : ∀ {α β : Type} {x : m α} {y : n α} {f : α → m β} {g : α → n β},
    rel x y → (∀ a, rel (f a) (g a)) → rel (x >>= f) (y >>= g)

namespace Lockstep

variable {m n : Type → Type} [Monad m] [Monad n] (L : Lockstep m n) {α β : Type}

def eq : Lockstep m m where
  rel x y := x = y
  pure _ := rfl
  bind hx hf := by rw [hx, funext hf]

theorem extrasMapM {f : α → m β} {g : α → n β} {extras : Option (Extras α)}
    (h : ∀ a, extras = some (.each a) → L.rel (f a) (g a)) : L.rel (Extras.mapM f extras) (Extras.mapM g extras) := by
  rcases extras with _ | ⟨b | a⟩
  · exact L.pure none
  · exact L.pure (some (Extras.flag b))
  · exact L.bind (h a rfl) fun t => L.pure (some (Extras.each t))

variable [LawfulMonad m] [LawfulMonad n]

theorem map {x : m α} {y : n α} (f : α → β) (h : L.rel x y) : L.rel (f <$> x) (f <$> y) := by
  rw [map_eq_pure_bind, map_eq_pure_bind]
  exact L.bind h fun a => L.pure (f a)

theorem mapM {f : α → m β} {g : α → n β} : ∀ {l : List α}, (∀ a ∈ l, L.rel (f a) (g a)) → L.rel (l.mapM f) (l.mapM g)
  | [], _ => by simpa using L.pure []
  | a :: l, h => by
    obtain ⟨ha, hl⟩ := List.forall_mem_cons.1 h
    rw [List.mapM_cons, List.mapM_cons]
    exact L.bind ha fun b => L.bind (mapM hl) fun bs => L.pure (b :: bs)

theorem optionMapM {f : α → m β} {g : α → n β} {o : Option α} (h : ∀ a, o = some a → L.rel (f a) (g a)) :
    L.rel (o.mapM f) (o.mapM g) := by
  cases o with
  | none => exact L.pure none
  | some a => exact L.map some (h a rfl)

/-- Walking one level of a body keeps the relation, if what is done directly below does. -/
theorem bodyMapM {f : α → m β} {g : α → n β} {b : Body α} (h : ∀ a ∈ b.below, L.rel (f a) (g a)) :
    L.rel (b.mapM f) (b.mapM g) := by
  obtain ⟨hall, hany, hone, hi, hx, hp⟩ := Body.forall_below.1 h
  exact L.bind (L.mapM hall) fun allOf => L.bind (L.mapM hany) fun anyOf => L.bind (L.mapM hone) fun oneOf =>
    L.bind (L.optionMapM hi) fun items => L.bind (L.extrasMapM hx) fun extras =>
      L.bind (L.mapM fun e he => L.map (e.1, ·) (hp e he)) fun properties =>
        L.pure (Body.mk b.toKeywords items properties allOf anyOf oneOf extras)

end Lockstep

theorem Body.mapM_pure {m : Type → Type} [Monad m] [LawfulMonad m] {σ : Type} (b : Body σ) :
    b.mapM (pure : σ → m σ) = pure b := by
  obtain ⟨own, items, properties, allOf, anyOf, oneOf, extras⟩ := b
  have hl : ∀ l : List σ, l.mapM (pure : σ → m σ) = pure l := fun l => by
    simpa using List.mapM_pure (m := m) (l := l) (f := id)
  have hi : items.mapM (pure : σ → m σ) = pure items := by cases items <;> simp
  have hx : Extras.mapM (pure : σ → m σ) extras = pure extras := by
    rcases extras with _ | ⟨_ | _⟩ <;> simp [Extras.mapM]
  have hp : (properties.mapM fun e => (e.1, ·) <$> (pure e.2 : m σ)) = pure properties := by
    simp only [map_pure, List.mapM_pure, List.map_id']
  simp only [Body.mapM, hl, hi, hx, hp, pure_bind]

namespace Schema

/-! ## Induction -/

/-- Induction over schemas: what holds of references, and of a body when it holds of all directly below it, holds of
every schema. -/
@[elab_as_elim]
theorem below_induction {P : Schema → Prop} (reference : ∀ pointer, P (.reference pointer))
    (inline : ∀ b : Body Schema, (∀ s ∈ b.below, P s) → P (.inline b)) (s : Schema) : P s := by
  refine @Schema.rec P (fun b => ∀ s ∈ b.below, P s) (fun items => ∀ s, items = some s → P s)
    (fun es => ∀ e ∈ es, P e.2) (fun ss => ∀ s ∈ ss, P s) (fun extras => ∀ s, extras = some (.each s) → P s)
    (fun e => P e.2) (fun extras => ∀ s, extras = .each s → P s) reference inline ?_ ?_ ?_ ?_ ?_ ?_ ?_ ?_ ?_ ?_ ?_ ?_ s
  case refine_1 =>
    intro own items properties allOf anyOf oneOf extras hi hp hall hany hone he
    exact Body.forall_below.2 ⟨hall, hany, hone, hi, he, hp⟩
  case refine_2 => simp
  case refine_3 => intro s hs t ht; cases ht; exact hs
  case refine_4 => simp
  case refine_5 => intro e es he hes; exact List.forall_mem_cons.2 ⟨he, hes⟩
  case refine_6 => simp
  case refine_7 => intro s ss hs hss; exact List.forall_mem_cons.2 ⟨hs, hss⟩
  case refine_8 => simp
  case refine_9 => intro extras he s hs; cases hs; exact he s rfl
  case refine_10 => intro name s hs; exact hs
  case refine_11 => intro b s hs; cases hs
  case refine_12 => intro s hs t ht; cases ht; exact hs

end Schema

end ApiValidators
