import ApiValidators.Proofs.References.Memory
import Mathlib.Data.List.Chain
import Mathlib.Data.List.Nodup

/-!
# What an error says

A reference error names a cycle that is there, or a reference that stands where it can be met and names nothing
(`resolve_error_genuine`). The cycle is cut out of the stack of names at the place where one of them is met again, so
the invariant is about the whole stack: its names are different, each was met in the schema of the one before it, and
all of them are reached from the schema that is resolved (`Trail`).
-/

namespace ApiValidators

open Relation

variable {declared : List (String × Schema)}

/-! ## Genuine errors -/

/-- Names that lead round: each but the last is declared for a schema with a reference to the next one, no name stands
twice before the last one, and that is the first one again. -/
structure IsCycle (declared : List (String × Schema)) (chain : List String) : Prop where
  two_le : 2 ≤ chain.length
  closed : chain.head? = chain.getLast?
  nodup : chain.dropLast.Nodup
  known : ∀ n ∈ chain.dropLast, n ∈ Entries.names declared
  linked : chain.IsChain (Mentions declared)

/-- A reference stands in a schema, or in a declared schema that is reached from it. -/
def Schema.Meets (declared : List (String × Schema)) (s : Schema) (pointer : String) : Prop :=
  pointer ∈ s.pointers ∨
    ∃ n t, s.Reaches declared n ∧ Entries.get? n declared = some t ∧ pointer ∈ t.pointers

/-- What an error says of a schema is true: the chain is a cycle that is reached from the schema, or the pointer is that
of a reference that is met and names no declared schema. -/
def ReferenceError.Genuine (declared : List (String × Schema)) (s : Schema) : ReferenceError → Prop
  | cyclic chain => IsCycle declared chain ∧ ∃ n, chain.head? = some n ∧ s.Reaches declared n
  | notFound pointer => s.Meets declared pointer ∧ Pointer.name pointer ∉ Entries.names declared

/-- A name that is met again on a stack of names that lead to each other closes a cycle. -/
theorem isCycle_chain {stack : List String} {name : String} (hnodup : stack.Nodup)
    (hknown : ∀ n ∈ stack, n ∈ Entries.names declared)
    (hlinked : (name :: stack).IsChain fun n m => Mentions declared m n) (hm : name ∈ stack) :
    IsCycle declared (Resolver.chain stack name) := by
  obtain ⟨before, after, rfl, hbefore⟩ := List.eq_append_cons_of_mem hm
  have htake : (before ++ name :: after).takeWhile (· != name) = before := by
    have hother : ∀ n ∈ before, (n != name) = true := fun n hn => bne_iff_ne.2 fun he => hbefore (he ▸ hn)
    rw [List.takeWhile_append_of_pos hother, List.takeWhile_cons_of_neg (by simp), List.append_nil]
  have hchain : Resolver.chain (before ++ name :: after) name = (name :: before.reverse) ++ [name] := by
    rw [Resolver.chain, htake, List.cons_append]
  -- the stack lists the innermost name first, the chain the outermost
  have hreverse : (name :: before.reverse) ++ [name] = (name :: (before ++ [name])).reverse := by simp
  have hlead : before ++ [name] <+: before ++ name :: after :=
    List.prefix_append_right_inj before |>.2 (List.cons_prefix_cons.2 ⟨rfl, List.nil_prefix⟩)
  have hsub : ∀ n ∈ name :: before.reverse, n ∈ before ++ name :: after := by
    intro n hn
    rcases List.mem_cons.1 hn with rfl | hn
    · exact hm
    · exact List.mem_append_left _ (List.mem_reverse.1 hn)
  rw [hchain]
  refine ⟨by simp, by rw [List.getLast?_concat]; rfl, ?_, ?_, ?_⟩
  · rw [List.dropLast_concat, List.nodup_cons, List.mem_reverse, List.nodup_reverse]
    exact ⟨hbefore, hnodup.of_append_left⟩
  · rw [List.dropLast_concat]
    exact fun n hn => hknown n (hsub n hn)
  · rw [hreverse, List.isChain_reverse]
    exact hlinked.prefix (List.cons_prefix_cons.2 ⟨rfl, hlead⟩)

/-! ## The stack -/

/-- How a name was come by, which `pointer` led to: the names on the stack are declared and all different, each was met
in the schema of the one before it, the innermost name first, and all of them and the pointer are met from the schema
`root`. -/
structure Trail (declared : List (String × Schema)) (root : Schema) (stack : List String) (name pointer : String) :
    Prop where
  leads : Pointer.name pointer = name
  nodup : stack.Nodup
  known : ∀ n ∈ stack, n ∈ Entries.names declared
  linked : (name :: stack).IsChain fun n m => Mentions declared m n
  reached : ∀ n ∈ name :: stack, root.Reaches declared n
  met : root.Meets declared pointer

namespace Trail

variable {root : Schema} {stack : List String} {name pointer : String}

theorem start (h : pointer ∈ root.pointers) : Trail declared root [] (Pointer.name pointer) pointer where
  leads := rfl
  nodup := List.nodup_nil
  known := fun _ hn => absurd hn List.not_mem_nil
  linked := List.isChain_singleton _
  reached := by
    intro n hn
    rw [List.mem_singleton.1 hn]
    exact ⟨_, List.mem_map_of_mem h, .refl⟩
  met := .inl h

/-- It goes on at a reference in the schema of its last name. -/
theorem step (h : Trail declared root stack name pointer) (hfresh : name ∉ stack) {s : Schema}
    (hs : Entries.get? name declared = some s) {inner : String} (hinner : inner ∈ s.pointers) :
    Trail declared root (name :: stack) (Pointer.name inner) inner where
  leads := rfl
  nodup := List.nodup_cons.2 ⟨hfresh, h.nodup⟩
  known := List.forall_mem_cons.2 ⟨Entries.exists_get?_iff.1 ⟨s, hs⟩, h.known⟩
  linked := List.isChain_cons_cons.2 ⟨⟨s, hs, List.mem_map_of_mem hinner⟩, h.linked⟩
  reached := by
    obtain ⟨m, hm, hmn⟩ := h.reached name List.mem_cons_self
    exact List.forall_mem_cons.2 ⟨⟨m, hm, hmn.tail ⟨s, hs, List.mem_map_of_mem hinner⟩⟩, h.reached⟩
  met := .inr ⟨name, s, h.reached name List.mem_cons_self, hs, hinner⟩

end Trail

/-! ## Runs that fail -/

theorem Schema.exists_of_substitute_error {answer : String → Except ReferenceError (Body Schema)} {s : Schema}
    {e : ReferenceError} (h : s.substitute answer = .error e) : ∃ p ∈ s.pointers, answer p = .error e := by
  rw [← failure?_eq_some_iff, failure?_substitute] at h
  obtain ⟨p, hp, he⟩ := List.exists_of_findSome?_eq_some h
  exact ⟨p, hp, failure?_eq_some_iff.1 he⟩

namespace Substitution

/-- **Following a name fails with a genuine error**, if the stack is a trail. -/
theorem named_error_genuine {root : Schema} {stack : List String} {name pointer : String} {e : ReferenceError}
    (htrail : Trail declared root stack name pointer) (h : named declared stack name pointer = .error e) :
    e.Genuine declared root := by
  induction stack, name using stack_induction declared generalizing pointer with
  | step stack name ih =>
  by_cases hm : name ∈ stack
  · rw [named_of_mem pointer hm] at h
    cases h
    exact ⟨isCycle_chain htrail.nodup htrail.known htrail.linked hm, name, rfl,
      htrail.reached name List.mem_cons_self⟩
  · cases hg : Entries.get? name declared with
    | none =>
      rw [named_of_get?_none pointer hm hg] at h
      cases h
      refine ⟨htrail.met, fun hn => ?_⟩
      obtain ⟨s, hs⟩ := Entries.exists_get?_iff.2 (htrail.leads ▸ hn)
      cases hg.symm.trans hs
    | some s =>
      rw [named_of_get?_some pointer hm hg] at h
      obtain ⟨inner, hinner, he⟩ := Schema.exists_of_substitute_error h
      exact ih hm s hg _ (List.mem_map_of_mem hinner) (htrail.step hm hg hinner) he

end Substitution

/-- **Reference errors are genuine**, whatever was asked of the resolver before. If resolving a schema fails with a
chain of names, these lead round, each by a reference in the schema declared for it, and the first one is reached from
the schema; if it fails with a pointer, that is the pointer of a reference in the schema or in a declared schema reached
from it, and it names no declared schema. -/
theorem Resolver.resolve_error_genuine (d : Document) (calls : List Call) (s : Schema) {e : ReferenceError}
    (h : ((Resolver.resolve d.declared s).run.run (after d.declared {} calls)).1 = .error e) :
    e.Genuine d.declared s := by
  rw [(Resolver.resolve_lockstep s _ (known_after Progress.known_empty calls)).1] at h
  obtain ⟨pointer, hpointer, he⟩ := Schema.exists_of_substitute_error h
  exact Substitution.named_error_genuine (.start hpointer) he

/-- Nodes with edges to nodes, and an alias of a schema that is nowhere declared. -/
def brokenGraph : Document where
  schemas := some ⟨[
    ("Graph", .inline { type := some (.one "array"), items := some (.reference "#/components/schemas/Node") }),
    ("Node", .inline { properties := [("edge", .reference "#/components/schemas/Edge")] }),
    ("Edge", .inline { allOf := [.inline {}, .reference "Node"] }),
    ("Label", .reference "#/definitions/Text")], by decide⟩

/-- A graph leads to the cycle of nodes and edges, and a label to what is missing, also after the failure of a node. -/
theorem resolve_error_genuine_brokenGraph :
    (ReferenceError.cyclic ["Node", "Edge", "Node"]).Genuine brokenGraph.declared (.reference "Graph") ∧
    (ReferenceError.notFound "#/definitions/Text").Genuine brokenGraph.declared
      (.inline { anyOf := [.reference "#/components/schemas/Label"] }) :=
  ⟨Resolver.resolve_error_genuine brokenGraph [] _ (failure?_eq_some_iff.1 (by decide +kernel)),
    Resolver.resolve_error_genuine brokenGraph [.component "Node"] _ (failure?_eq_some_iff.1 (by decide +kernel))⟩

end ApiValidators
