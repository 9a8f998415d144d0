import ApiValidators.Proofs.References.Substitution

/-!
# The resolver's memory

A resolver remembers what names stand for and takes that up again, also after failures and on another stack. It gives
the same answers as plain substitution all the same (`answers_eq_substitution`). The invariant is `Progress.Known`: what
is remembered is what plain substitution gives with nothing on the stack. That it may be used on the present stack rests
on the names of the stack leading to the present one: a remembered name that led back to one of them would be on a
cycle (`Substitution.named_of_chain`).
-/

namespace ApiValidators

open Relation

variable {declared : List (String × Schema)}

/-- All that is remembered is what plain substitution gives. -/
def Progress.Known (declared : List (String × Schema)) (p : Progress) : Prop :=
  ∀ e ∈ p.flattened, ∀ pointer, Substitution.named declared [] e.1 pointer = .ok e.2

theorem Progress.known_empty : ({} : Progress).Known declared := by
  intro e he
  simp at he

/-! ## Runs of a resolver -/

namespace Resolution

variable {α β : Type}

theorem run_bind_of_ok {x : Resolution α} {f : α → Resolution β} {p q : Progress} {a : α}
    (h : x.run.run p = (.ok a, q)) : (x >>= f).run.run p = (f a).run.run q := by
  have hrun : (x >>= f).run.run p = ExceptT.bindCont f (x.run.run p).1 (x.run.run p).2 := rfl
  rw [hrun, h]
  rfl

theorem run_bind_of_error {x : Resolution α} {f : α → Resolution β} {p q : Progress} {e : ReferenceError}
    (h : x.run.run p = (.error e, q)) : (x >>= f).run.run p = (.error e, q) := by
  have hrun : (x >>= f).run.run p = ExceptT.bindCont f (x.run.run p).1 (x.run.run p).2 := rfl
  rw [hrun, h]
  rfl

end Resolution

/-- A step of resolving gives an outcome and keeps an invariant. -/
def Lockstep.under (I : Progress → Prop) : Lockstep Resolution (Except ReferenceError) where
  rel x y := ∀ p, I p → (x.run.run p).1 = y ∧ I (x.run.run p).2
  pure _ _ hp := ⟨rfl, hp⟩
  bind {_ _ x y f g} hx hf p hp := by
    obtain ⟨h1, h2⟩ := hx p hp
    rcases hr : x.run.run p with ⟨e | a, q⟩
    · rw [hr] at h1 h2
      rw [Resolution.run_bind_of_error hr, ← h1]
      exact ⟨rfl, h2⟩
    · rw [hr] at h1 h2
      rw [Resolution.run_bind_of_ok hr, ← h1]
      exact hf a q h2

namespace Resolver

variable {stack : List String} {name : String} {p : Progress}

theorem run_get : (get : Resolution Progress).run.run p = (.ok p, p) := rfl

theorem named_of_remembered (pointer : String) {b : Body Schema} (h : Entries.get? name p.flattened = some b) :
    (named declared stack name pointer).run.run p = (.ok b, p) := by
  rw [named, Resolution.run_bind_of_ok run_get]
  simp only [h]
  rfl

theorem named_of_mem (pointer : String) (h : Entries.get? name p.flattened = none) (hm : name ∈ stack) :
    (named declared stack name pointer).run.run p = (.error (.cyclic (chain stack name)), p) := by
  rw [named, Resolution.run_bind_of_ok run_get]
  simp only [h, dif_pos hm]
  rfl

theorem named_of_get?_none (pointer : String) (h : Entries.get? name p.flattened = none) (hm : name ∉ stack)
    (hg : Entries.get? name declared = none) :
    (named declared stack name pointer).run.run p = (.error (.notFound pointer), p) := by
  rw [named, Resolution.run_bind_of_ok run_get]
  simp only [h, dif_neg hm]
  split
  · rfl
  · next hs => simp [hg] at hs

/-- A name met for the first time is followed with itself on the stack, and what it stands for is remembered. -/
theorem named_of_get?_some (pointer : String) {s : Schema} (h : Entries.get? name p.flattened = none)
    (hm : name ∉ stack) (hg : Entries.get? name declared = some s) :
    (named declared stack name pointer).run.run p =
      (s.flatten (follow declared (name :: stack)) >>= fun body =>
        Resolution.remember name body >>= fun _ => pure body).run.run p := by
  rw [named, Resolution.run_bind_of_ok run_get]
  simp only [h, dif_neg hm]
  split
  · next hn => simp [hg] at hn
  · next target ht =>
    cases ht.symm.trans hg
    rfl

/-! ## The same answers -/

theorem warn_lockstep {I : Progress → Prop} (ws : List Warning)
    (h : ∀ p, I p → I { p with warnings := p.warnings ++ ws }) :
    (Lockstep.under I).rel (Resolution.warn ws) (pure ()) := fun p hp => ⟨rfl, h p hp⟩

/-- The answers of a resolver that remembers nothing wrong, with a stack of names that lead to the one asked for, are
those of plain substitution, and it then remembers nothing wrong. -/
theorem named_lockstep (stack : List String) (name pointer : String)
    (hchain : ∀ m ∈ stack, TransGen (Mentions declared) m name) :
    (Lockstep.under (Progress.Known declared)).rel (named declared stack name pointer)
      (Substitution.named declared stack name pointer) := by
  induction stack, name using Substitution.stack_induction declared generalizing pointer with
  | step stack name ih =>
  intro p hp
  cases hk : Entries.get? name p.flattened with
  | some b =>
    -- remembered with nothing on the stack, and good on this one as the names of the stack lead here
    rw [named_of_remembered pointer hk]
    exact ⟨(Substitution.named_of_chain pointer hchain (hp (name, b) (Entries.mem_of_get? hk) pointer)).symm, hp⟩
  | none =>
    by_cases hm : name ∈ stack
    · rw [named_of_mem pointer hk hm, Substitution.named_of_mem pointer hm]
      exact ⟨rfl, hp⟩
    · cases hg : Entries.get? name declared with
      | none =>
        rw [named_of_get?_none pointer hk hm hg, Substitution.named_of_get?_none pointer hm hg]
        exact ⟨rfl, hp⟩
      | some s =>
        have hplain := Substitution.named_of_get?_some pointer hm hg
        have hwalk : (Lockstep.under (Progress.Known declared)).rel (s.flatten (follow declared (name :: stack)))
            (Substitution.named declared stack name pointer) := by
          rw [Schema.flatten_eq_substitute, hplain]
          refine Lockstep.substitute _ fun inner hinner => ?_
          have hmem : Pointer.name inner ∈ s.targets := List.mem_map_of_mem hinner
          refine Lockstep.bind _ (warn_lockstep _ fun _ h => h) fun _ => ih hm s hg _ hmem inner fun m hms => ?_
          have hstep : Mentions declared name (Pointer.name inner) := ⟨s, hg, hmem⟩
          -- the names of the longer stack lead to what this schema mentions
          rcases List.mem_cons.1 hms with rfl | hms
          · exact .single hstep
          · exact (hchain m hms).tail hstep
        obtain ⟨h1, h2⟩ := hwalk p hp
        rw [named_of_get?_some pointer hk hm hg]
        rcases hr : (s.flatten (follow declared (name :: stack))).run.run p with ⟨e | b, q⟩
        · rw [hr] at h1 h2
          rw [Resolution.run_bind_of_error hr]
          exact ⟨h1, h2⟩
        · rw [hr] at h1 h2
          rw [Resolution.run_bind_of_ok hr]
          -- what is remembered now was found on a stack, so it is the same with nothing on it
          refine ⟨h1, fun e he other => ?_⟩
          rcases List.mem_cons.1 he with rfl | he
          · exact Substitution.named_mono other (fun m hm => absurd hm List.not_mem_nil) h1.symm
          · exact h2 e he other

theorem follow_lockstep (pointer : String) :
    (Lockstep.under (Progress.Known declared)).rel (follow declared [] pointer)
      (Substitution.follow declared [] pointer) :=
  Lockstep.bind _ (warn_lockstep _ fun _ h => h) fun _ =>
    named_lockstep [] _ pointer fun _ hm => absurd hm List.not_mem_nil

theorem resolve_lockstep (s : Schema) :
    (Lockstep.under (Progress.Known declared)).rel (resolve declared s) (Substitution.resolve declared s) := by
  rw [resolve, Schema.flatten_eq_substitute]
  exact Lockstep.substitute _ fun pointer _ => follow_lockstep pointer

theorem component_lockstep (name : String) :
    (Lockstep.under (Progress.Known declared)).rel (component declared name) (Substitution.component declared name) :=
  named_lockstep [] name (Pointer.ofName name) fun _ hm => absurd hm List.not_mem_nil

/-! ## Sessions -/

/-- What can be asked of a resolver. -/
inductive Call where
  | schema (s : Schema)
  | component (name : String)

/-- What a resolver does when asked. -/
def Call.run (declared : List (String × Schema)) : Call → Resolution (Body Schema)
  | schema s => resolve declared s
  | component name => Resolver.component declared name

/-- The answer of plain substitution to one call alone. -/
def Call.plain (declared : List (String × Schema)) : Call → Except ReferenceError (Body Schema)
  | schema s => Substitution.resolve declared s
  | component name => Substitution.component declared name

/-- The answers of one resolver to calls made in turn. It goes on after a failure with what it has learnt. -/
def answers (declared : List (String × Schema)) (p : Progress) : List Call → List (Except ReferenceError (Body Schema))
  | [] => []
  | call :: calls =>
    let r := (call.run declared).run.run p
    r.1 :: answers declared r.2 calls

/-- What a resolver knows after calls made in turn. -/
def after (declared : List (String × Schema)) (p : Progress) : List Call → Progress
  | [] => p
  | call :: calls => after declared ((call.run declared).run.run p).2 calls

theorem call_lockstep (call : Call) :
    (Lockstep.under (Progress.Known declared)).rel (call.run declared) (call.plain declared) := by
  cases call with
  | schema s => exact resolve_lockstep s
  | component name => exact component_lockstep name

theorem known_after {p : Progress} (hp : p.Known declared) (calls : List Call) :
    (after declared p calls).Known declared := by
  induction calls generalizing p with
  | nil => exact hp
  | cons call calls ih => exact ih (call_lockstep call p hp).2

/-- A resolver that remembers nothing wrong answers every call as plain substitution does. -/
theorem answers_of_known {p : Progress} (hp : p.Known declared) (calls : List Call) :
    answers declared p calls = calls.map (Call.plain declared) := by
  induction calls generalizing p with
  | nil => rfl
  | cons call calls ih =>
    obtain ⟨h1, h2⟩ := call_lockstep call p hp
    rw [answers, List.map_cons, ih h2, h1]

/-- **Memory and short cut show in no answer.** Whatever is asked of one resolver, and however much of it fails, each
answer is that of plain substitution to the call alone; and plain substitution fails with the failure of the first
reference, in the order in which they are met, that stands for nothing. -/
theorem answers_eq_substitution (d : Document) (calls : List Call) :
    answers d.declared {} calls = calls.map (Call.plain d.declared) ∧
    ∀ (stack : List String) (s : Schema) (e : ReferenceError),
      s.substitute (Substitution.follow d.declared stack) = .error e ↔
        ∃ before p after, s.pointers = before ++ p :: after ∧
          (∀ q ∈ before, ∃ b, Substitution.follow d.declared stack q = .ok b) ∧
          Substitution.follow d.declared stack p = .error e := by
  refine ⟨answers_of_known Progress.known_empty calls, fun stack s e => ?_⟩
  rw [← failure?_eq_some_iff, failure?_substitute, List.findSome?_eq_some_iff]
  simp only [failure?_eq_some_iff, failure?_eq_none_iff]
  constructor
  · rintro ⟨before, p, after, hp, he, hb⟩
    exact ⟨before, p, after, hp, hb, he⟩
  · rintro ⟨before, p, after, hp, hb, he⟩
    exact ⟨before, p, after, hp, he, hb⟩

end Resolver

end ApiValidators
