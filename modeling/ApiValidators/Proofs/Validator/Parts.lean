import ApiValidators.Validator.Expr

/-!
# Parts of expressions and literals

`inner` lists what stands directly inside an expression or a literal. Facts about all of them go by induction over
that (`Expr.inner_induction`, `Literal.inner_induction`), and `Expr.All` says of a property that it holds at every
depth.
-/

namespace ApiValidators

/-! ## Literals -/

namespace Literal

/-- The literals directly inside a literal. -/
def inner : Literal → List Literal
  | array items => items
  | object members => members.map Prod.snd
  | _ => []

/-- What holds of a literal when it holds of all directly inside it holds of every literal. -/
@[elab_as_elim]
theorem inner_induction {P : Literal → Prop} (step : ∀ l, (∀ x ∈ l.inner, P x) → P l) (l : Literal) : P l := by
  refine @Literal.rec P (fun ls => ∀ x ∈ ls, P x) (fun ms => ∀ m ∈ ms, P m.2) (fun m => P m.2)
    (step _ (by simp [inner])) (fun _ => step _ (by simp [inner])) (fun _ => step _ (by simp [inner]))
    (fun _ => step _ (by simp [inner])) ?_ ?_ (by simp) ?_ (by simp) ?_ ?_ l
  case refine_1 => exact fun items hitems => step (array items) hitems
  case refine_2 => exact fun members hmembers => step (object members) (List.forall_mem_map.2 hmembers)
  case refine_3 => exact fun x xs hx hxs => List.forall_mem_cons.2 ⟨hx, hxs⟩
  case refine_4 => exact fun m ms hm hms => List.forall_mem_cons.2 ⟨hm, hms⟩
  case refine_5 => exact fun _ _ hl => hl

end Literal

/-! ## Expressions -/

def Base.inner {ε : Type} : Base ε → List ε
  | array item => [item]
  | object members => members.map Member.value
  | union branches => branches
  | _ => []

def Argument.inner {ε : Type} : Argument ε → List ε
  | literal _ => []
  | expr e => [e]

def Modifier.inner {ε : Type} (m : Modifier ε) : List ε := m.arguments.flatMap Argument.inner

namespace Expr

/-- The expressions directly inside an expression: in its base, then in the arguments of its modifiers. -/
def inner (e : Expr) : List Expr := e.base.inner ++ e.modifiers.flatMap Modifier.inner

/-- What holds of an expression when it holds of all directly inside it holds of every expression. -/
@[elab_as_elim]
theorem inner_induction {P : Expr → Prop} (step : ∀ e, (∀ x ∈ e.inner, P x) → P e) (e : Expr) : P e := by
  have hnone : ∀ b : Base Expr, b.inner = [] → ∀ x ∈ b.inner, P x := by
    intro b hb x hx
    rw [hb] at hx
    cases hx
  refine @Expr.rec P (fun b => ∀ x ∈ b.inner, P x) (fun ms => ∀ x ∈ ms.flatMap Modifier.inner, P x)
    (fun ms => ∀ m ∈ ms, P m.value) (fun es => ∀ x ∈ es, P x) (fun m => ∀ x ∈ m.inner, P x) (fun m => P m.value)
    (fun as => ∀ x ∈ as.flatMap Argument.inner, P x) (fun a => ∀ x ∈ a.inner, P x)
    (fun n => step (identifier n) (hnone (.named n) rfl)) ?_ (hnone _ rfl) (hnone _ rfl) (hnone _ rfl) (hnone _ rfl)
    (hnone _ rfl) (fun _ => hnone _ rfl) ?_ ?_ ?_ (fun _ => hnone _ rfl) (by simp) ?_ (by simp) ?_ (by simp) ?_ ?_ ?_
    (by simp) ?_ ?_ ?_ e
  case refine_1 => exact fun base modifiers hb hm => step (call base modifiers) (List.forall_mem_append.2 ⟨hb, hm⟩)
  case refine_2 => exact fun item hitem => List.forall_mem_singleton.2 hitem
  case refine_3 => exact fun members hmembers => List.forall_mem_map.2 hmembers
  case refine_4 => exact fun branches hbranches => hbranches
  case refine_5 => exact fun m ms hm hms => List.forall_mem_append.2 ⟨hm, hms⟩
  case refine_6 => exact fun m ms hm hms => List.forall_mem_cons.2 ⟨hm, hms⟩
  case refine_7 => exact fun x xs hx hxs => List.forall_mem_cons.2 ⟨hx, hxs⟩
  case refine_8 => exact fun name arguments ha => ha
  case refine_9 => exact fun name value comment hv => hv
  case refine_10 => exact fun a as ha has => List.forall_mem_append.2 ⟨ha, has⟩
  case refine_11 => exact fun l x hx => nomatch hx
  case refine_12 => exact fun x hx => List.forall_mem_singleton.2 hx

/-- Whether something holds of an expression and of all inside it, at any depth. -/
inductive All (P : Expr → Prop) : Expr → Prop where
  | intro {e : Expr} : P e → (∀ x ∈ e.inner, All P x) → All P e

theorem All.here {P : Expr → Prop} {e : Expr} : e.All P → P e
  | intro h _ => h

theorem All.inner {P : Expr → Prop} {e : Expr} : e.All P → ∀ x ∈ e.inner, x.All P
  | intro _ h => h

end Expr

end ApiValidators
