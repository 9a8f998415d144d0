import ApiValidators.Document.Resolver
import ApiValidators.Proofs.References.Outcome
import Mathlib.Logic.Relation

/-!
# Plain substitution

What a reference stands for, said without memory: the named schema with what its own references stand for in their
place. The only thing carried along is the stack of names that are being followed.

The names form a graph (`Mentions`). Following a name succeeds exactly if every name it reaches is declared, off the
stack and on no cycle (`named_ok_iff`), and what it gives does not depend on the stack (`named_mono`).
-/

namespace ApiValidators

open Relation

/-! ## The graph of names -/

/-- The names a schema's references end in. -/
def Schema.targets (s : Schema) : List String := s.pointers.map Pointer.name

/-- A name is declared for a schema that has a reference to another name. -/
def Mentions (declared : List (String × Schema)) (m n : String) : Prop :=
  ∃ s, Entries.get? m declared = some s ∧ n ∈ s.targets

/-- A name is reached from a schema: the name of one of its references, or one that leads on from there. -/
def Schema.Reaches (declared : List (String × Schema)) (s : Schema) (n : String) : Prop :=
  ∃ m ∈ s.targets, ReflTransGen (Mentions declared) m n

/-- A name is declared and does not lead back to itself. -/
def Sane (declared : List (String × Schema)) (n : String) : Prop :=
  n ∈ Entries.names declared ∧ ¬ TransGen (Mentions declared) n n

/-- Every name reached from a schema is declared and on no cycle. -/
def Schema.Grounded (declared : List (String × Schema)) (s : Schema) : Prop :=
  ∀ n, s.Reaches declared n → Sane declared n

/-! ## Following a name -/

namespace Substitution

variable {declared : List (String × Schema)}

/-- What a name stands for, which `pointer` led to, while those on the stack are being followed. -/
def named (declared : List (String × Schema)) (stack : List String) (name pointer : String) :
    Except ReferenceError (Body Schema) :=
  if _ : name ∈ stack then .error (.cyclic (Resolver.chain stack name))
  else
    match _h : Entries.get? name declared with
    | none => .error (.notFound pointer)
    | some target => target.substitute fun inner => named declared (name :: stack) (Pointer.name inner) inner
  termination_by Resolver.room declared stack
  decreasing_by exact Resolver.room_cons_lt ‹_› ‹_›

/-- What a pointer stands for, while those on the stack are being followed. -/
def follow (declared : List (String × Schema)) (stack : List String) (pointer : String) :
    Except ReferenceError (Body Schema) := named declared stack (Pointer.name pointer) pointer

/-- What any schema stands for. -/
def resolve (declared : List (String × Schema)) (s : Schema) : Except ReferenceError (Body Schema) :=
  s.substitute (follow declared [])

/-- What a named schema stands for, as if a pointer led to it. -/
def component (declared : List (String × Schema)) (name : String) : Except ReferenceError (Body Schema) :=
  named declared [] name (Pointer.ofName name)

theorem named_of_mem {stack : List String} {name : String} (pointer : String) (h : name ∈ stack) :
    named declared stack name pointer = .error (.cyclic (Resolver.chain stack name)) := by
  rw [named, dif_pos h]

theorem named_of_get?_none {stack : List String} {name : String} (pointer : String) (h : name ∉ stack)
    (hg : Entries.get? name declared = none) : named declared stack name pointer = .error (.notFound pointer) := by
  rw [named, dif_neg h]
  split
  · rfl
  · next hs => simp [hg] at hs

theorem named_of_get?_some {stack : List String} {name : String} (pointer : String) {s : Schema} (h : name ∉ stack)
    (hg : Entries.get? name declared = some s) :
    named declared stack name pointer = s.substitute (follow declared (name :: stack)) := by
  rw [named, dif_neg h]
  split
  · next hn => simp [hg] at hn
  · next target ht =>
    cases ht.symm.trans hg
    rfl

/-- A name that stands for a body is declared and off the stack, and its schema stands for that body with the name put
on the stack. -/
theorem exists_of_named {stack : List String} {name pointer : String} {b : Body Schema}
    (h : named declared stack name pointer = .ok b) :
    name ∉ stack ∧
      ∃ s, Entries.get? name declared = some s ∧ s.substitute (follow declared (name :: stack)) = .ok b := by
  have hn : name ∉ stack := by
    intro hm
    rw [named_of_mem pointer hm] at h
    cases h
  cases hg : Entries.get? name declared with
  | none =>
    rw [named_of_get?_none pointer hn hg] at h
    cases h
  | some s => exact ⟨hn, s, rfl, (named_of_get?_some pointer hn hg).symm.trans h⟩

/-- Induction along the stack: the names mentioned by a name may be followed with that name on the stack. -/
@[elab_as_elim]
theorem stack_induction (declared : List (String × Schema)) {P : List String → String → Prop}
    (step : ∀ stack name, (name ∉ stack → ∀ s, Entries.get? name declared = some s →
      ∀ n ∈ s.targets, P (name :: stack) n) → P stack name) (stack : List String) (name : String) : P stack name :=
  step stack name fun _ _ _ n _ => stack_induction declared step (name :: stack) n
  termination_by Resolver.room declared stack
  decreasing_by exact Resolver.room_cons_lt ‹_› ‹_›

/-! ## When following succeeds -/

/-- Following a declared name that is off the stack succeeds exactly if following all it mentions does. -/
theorem named_ok_iff_targets {stack : List String} {name : String} {s : Schema} (pointer : String) (h : name ∉ stack)
    (hg : Entries.get? name declared = some s) :
    (∃ b, named declared stack name pointer = .ok b) ↔
      ∀ p ∈ s.pointers, ∃ b, named declared (name :: stack) (Pointer.name p) p = .ok b := by
  rw [named_of_get?_some pointer h hg, ← failure?_eq_none_iff, failure?_substitute, List.findSome?_eq_none_iff]
  exact forall₂_congr fun p _ => failure?_eq_none_iff

/-- **When following a name succeeds**: every name it reaches, itself among them, is off the stack, declared and on no
cycle. -/
theorem named_ok_iff (stack : List String) (name pointer : String) :
    (∃ b, named declared stack name pointer = .ok b) ↔
      ∀ m, ReflTransGen (Mentions declared) name m → m ∉ stack ∧ Sane declared m := by
  induction stack, name using stack_induction declared generalizing pointer with
  | step stack name ih =>
  constructor
  · rintro ⟨b, hb⟩
    obtain ⟨hn, s, hs, -⟩ := exists_of_named hb
    -- whatever is reached in one step or more is reached from a target, with the name itself on the stack
    have hbelow : ∀ m, TransGen (Mentions declared) name m → m ∉ name :: stack ∧ Sane declared m := by
      intro m hm
      obtain ⟨k, ⟨s', hs', hk⟩, hkm⟩ := TransGen.head'_iff.1 hm
      cases hs.symm.trans hs'
      obtain ⟨p, hp, rfl⟩ := List.mem_map.1 hk
      have hok := (named_ok_iff_targets pointer hn hs).1 ⟨b, hb⟩ p hp
      exact (ih hn s hs _ hk p).1 hok m hkm
    intro m hm
    rcases reflTransGen_iff_eq_or_transGen.1 hm with rfl | hm
    · refine ⟨hn, Entries.exists_get?_iff.1 ⟨s, hs⟩, fun hc => ?_⟩
      exact (hbelow _ hc).1 List.mem_cons_self
    · obtain ⟨h1, h2⟩ := hbelow m hm
      exact ⟨fun h => h1 (List.mem_cons_of_mem _ h), h2⟩
  · intro h
    obtain ⟨hn, hd, hc⟩ := h name .refl
    obtain ⟨s, hs⟩ := Entries.exists_get?_iff.2 hd
    refine (named_ok_iff_targets pointer hn hs).2 fun p hp => ?_
    have hk : Pointer.name p ∈ s.targets := List.mem_map_of_mem hp
    refine (ih hn s hs _ hk p).2 fun m hm => ?_
    have hm' : TransGen (Mentions declared) name m := TransGen.head' ⟨s, hs, hk⟩ hm
    obtain ⟨h1, h2⟩ := h m hm'.to_reflTransGen
    refine ⟨fun hmem => ?_, h2⟩
    rcases List.mem_cons.1 hmem with rfl | hmem
    · exact hc hm'
    · exact h1 hmem

/-- **What a name stands for does not depend on how it was reached**: a body found with some names on the stack is found
with fewer names on it, and whichever pointer led there. -/
theorem named_mono {stack fewer : List String} {name pointer : String} (other : String) {b : Body Schema}
    (hsub : ∀ m ∈ fewer, m ∈ stack) (h : named declared stack name pointer = .ok b) :
    named declared fewer name other = .ok b := by
  induction stack, name using stack_induction declared generalizing fewer pointer other b with
  | step stack name ih =>
  obtain ⟨hn, s, hg, h⟩ := exists_of_named h
  rw [named_of_get?_some other (fun hm => hn (hsub name hm)) hg]
  refine Lockstep.answered.substitute (fun p hp b hb => ?_) b h
  refine ih hn s hg _ (List.mem_map_of_mem hp) p (fun m hm => ?_) hb
  rcases List.mem_cons.1 hm with rfl | hm
  · exact List.mem_cons_self
  · exact List.mem_cons_of_mem _ (hsub m hm)

/-- A name that stands for a body on its own does so below names that lead to it. -/
theorem named_of_chain {stack : List String} {name pointer : String} (other : String) {b : Body Schema}
    (hchain : ∀ m ∈ stack, TransGen (Mentions declared) m name) (h : named declared [] name pointer = .ok b) :
    named declared stack name other = .ok b := by
  have hok := (named_ok_iff [] name pointer).1 ⟨b, h⟩
  -- a name on the stack that is reached again would be on a cycle
  have hoff : ∀ m, ReflTransGen (Mentions declared) name m → m ∉ stack := fun m hm hmem =>
    (hok m hm).2.2 ((hchain m hmem).trans_left hm)
  obtain ⟨c, hc⟩ := (named_ok_iff stack name other).2 fun m hm => ⟨hoff m hm, (hok m hm).2⟩
  have hcb := named_mono pointer (fun m hm => absurd hm List.not_mem_nil) hc
  cases hcb.symm.trans h
  exact hc

/-- **A name stands for what the schema declared for it stands for.** -/
theorem named_ok_iff_resolve {name : String} (pointer : String) {s : Schema} (hs : Entries.get? name declared = some s)
    {b : Body Schema} : named declared [] name pointer = .ok b ↔ resolve declared s = .ok b := by
  rw [named_of_get?_some pointer List.not_mem_nil hs, resolve]
  constructor
  · exact Lockstep.answered.substitute (fun p _ _ => named_mono p fun _ hm => absurd hm List.not_mem_nil) b
  · refine Lockstep.answered.substitute (fun p hp _ => named_of_chain p fun m hm => ?_) b
    rw [List.mem_singleton.1 hm]
    exact .single ⟨s, hs, List.mem_map_of_mem hp⟩

end Substitution

end ApiValidators
