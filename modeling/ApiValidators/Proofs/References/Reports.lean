import ApiValidators.Proofs.References.Effects
import ApiValidators.Proofs.References.Memory

/-!
# Pointers that are reported

Following a reference warns of its pointer, if that does not start where named schemas live. As each named schema is
flattened once, a document that resolves is warned of once for each such reference in it, however many others lead to
the schema that holds it (`Document.resolve_warnings`). The invariant is `Progress.Accounted`: the warnings are those
of the references met so far, which are the ones in remembered schemas and the ones in walks that are still open.
-/

namespace ApiValidators

variable {declared : List (String × Schema)} {stack : List String}

/-- The references in the schema that a name is declared for. -/
def Resolver.pointersOf (declared : List (String × Schema)) (name : String) : List String :=
  ((Entries.get? name declared).map Schema.pointers).getD []

/-- The warnings account for what has been met: the references in remembered schemas, and those in `walked`, which
belong to walks that are still open. Names on the stack are not remembered yet, and no name is remembered twice. -/
structure Progress.Accounted (declared : List (String × Schema)) (stack walked : List String) (p : Progress) :
    Prop where
  nodup : (Entries.names p.flattened).Nodup
  known : ∀ n ∈ Entries.names p.flattened, n ∈ Entries.names declared
  fresh : ∀ n ∈ stack, n ∉ Entries.names p.flattened
  warnings : p.warnings.Perm
    ((walked ++ (Entries.names p.flattened).flatMap (Resolver.pointersOf declared)).flatMap Warning.ofPointer)

namespace Progress.Accounted

variable {walked : List String} {p : Progress}

theorem empty : ({} : Progress).Accounted declared [] [] where
  nodup := List.nodup_nil
  known := by simp [Entries.names]
  fresh := by simp
  warnings := .nil

theorem warn (h : p.Accounted declared stack walked) (pointer : String) :
    Accounted declared stack (walked ++ [pointer]) { p with warnings := p.warnings ++ Warning.ofPointer pointer } where
  nodup := h.nodup
  known := h.known
  fresh := h.fresh
  warnings := by
    have hw := h.warnings.append_right (Warning.ofPointer pointer)
    simp only [List.flatMap_append, List.flatMap_singleton, List.append_assoc] at hw ⊢
    exact hw.trans (List.perm_append_comm.append_left _)

/-- What has been walked counts for the name that is remembered for it. -/
theorem remember {name : String} {s : Schema} (h : p.Accounted declared (name :: stack) (walked ++ s.pointers))
    (hname : name ∉ stack) (hs : Entries.get? name declared = some s) (b : Body Schema) :
    Accounted declared stack walked { p with flattened := (name, b) :: p.flattened } where
  nodup := List.nodup_cons.2 ⟨h.fresh name List.mem_cons_self, h.nodup⟩
  known := by
    intro n hn
    rcases List.mem_cons.1 hn with rfl | hn
    · exact Entries.exists_get?_iff.1 ⟨s, hs⟩
    · exact h.known n hn
  fresh := by
    intro n hn hmem
    rcases List.mem_cons.1 hmem with rfl | hmem
    · exact hname hn
    · exact h.fresh n (List.mem_cons_of_mem _ hn) hmem
  warnings := by
    have hpointers : Resolver.pointersOf declared name = s.pointers := by simp [Resolver.pointersOf, hs]
    have hw := h.warnings
    rw [List.append_assoc, ← hpointers] at hw
    exact hw

end Progress.Accounted

/-! ## Runs that succeed -/

namespace Resolution

variable {α β : Type} {p r : Progress}

theorem run_bind_ok {x : Resolution α} {f : α → Resolution β} {b : β} (h : (x >>= f).run.run p = (.ok b, r)) :
    ∃ a q, x.run.run p = (.ok a, q) ∧ (f a).run.run q = (.ok b, r) := by
  rcases hx : x.run.run p with ⟨e | a, q⟩
  · rw [run_bind_of_error hx] at h
    cases h
  · rw [run_bind_of_ok hx] at h
    exact ⟨a, q, rfl, h⟩

theorem run_effect_ok {x : Resolution α} {a : α} (h : x.run.run p = (.ok a, r)) :
    (effect x).run.run p = (.ok (), r) := by
  rw [effect, map_eq_pure_bind, run_bind_of_ok h]
  rfl

/-- A run that succeeds meets the given references, and whatever those lead to is accounted for and remembered. What
was remembered before stays so. -/
def Meets (declared : List (String × Schema)) (stack : List String) (x : Resolution α) (pointers : List String) :
    Prop :=
  ∀ ⦃walked : List String⦄ ⦃p q : Progress⦄ ⦃a : α⦄, p.Accounted declared stack walked → x.run.run p = (.ok a, q) →
    q.Accounted declared stack (walked ++ pointers) ∧ p.flattened <:+ q.flattened

namespace Meets

variable {x : Resolution α} {pointers more : List String}

theorem bind {f : α → Resolution β} (hx : x.Meets declared stack pointers)
    (hf : ∀ a, (f a).Meets declared stack more) : (x >>= f).Meets declared stack (pointers ++ more) := by
  intro walked p r b hp hrun
  obtain ⟨a, q, hxrun, hfrun⟩ := run_bind_ok hrun
  obtain ⟨hq, hpq⟩ := hx hp hxrun
  obtain ⟨hr, hqr⟩ := hf a hq hfrun
  exact ⟨List.append_assoc .. ▸ hr, hpq.trans hqr⟩

theorem forM {f : α → Resolution Unit} {g : α → List String} {l : List α}
    (h : ∀ a ∈ l, (f a).Meets declared stack (g a)) : (forM l f).Meets declared stack (l.flatMap g) := by
  induction l with
  | nil =>
    intro walked p q a hp hrun
    cases hrun
    exact ⟨by simpa using hp, List.suffix_rfl⟩
  | cons a l ih =>
    obtain ⟨ha, hl⟩ := List.forall_mem_cons.1 h
    rw [List.forM_cons, List.flatMap_cons]
    exact bind ha fun _ => ih hl

theorem of_effect (h : (effect x).Meets declared stack pointers) : x.Meets declared stack pointers :=
  fun _ _ _ _ hp hrun => h hp (run_effect_ok hrun)

theorem effect (h : x.Meets declared stack pointers) : (effect x).Meets declared stack pointers := by
  intro walked p q a hp hrun
  rw [ApiValidators.effect, map_eq_pure_bind] at hrun
  obtain ⟨b, r, hxrun, hpure⟩ := run_bind_ok hrun
  cases hpure
  exact h hp hxrun

end Meets

end Resolution

/-! ## The resolver -/

namespace Resolver

open Resolution

variable {name : String} {p q : Progress} {b : Body Schema}

/-- Following a pointer meets the reference it belongs to. -/
theorem follow_meets {pointer : String}
    (h : (named declared stack (Pointer.name pointer) pointer).Meets declared stack []) :
    (follow declared stack pointer).Meets declared stack [pointer] := by
  intro walked p q b hp hrun
  obtain ⟨_, r, hwarn, hnamed⟩ := run_bind_ok hrun
  cases hwarn
  obtain ⟨hq, hsuffix⟩ := h (hp.warn pointer) hnamed
  rw [List.append_nil] at hq
  exact ⟨hq, hsuffix⟩

theorem flatten_meets {s : Schema}
    (h : ∀ pointer ∈ s.pointers, (named declared stack (Pointer.name pointer) pointer).Meets declared stack []) :
    (s.flatten (follow declared stack)).Meets declared stack s.pointers := by
  refine Meets.of_effect ?_
  rw [Schema.flatten_eq_substitute, effect_substitute]
  have hall := Meets.forM fun pointer hpointer => (follow_meets (h pointer hpointer)).effect
  rwa [List.flatMap_singleton'] at hall

/-- **What a name leads to is accounted for** when it is asked for and when it is remembered. -/
theorem named_meets (stack : List String) (name pointer : String) :
    (named declared stack name pointer).Meets declared stack [] := by
  induction stack, name using Substitution.stack_induction declared generalizing pointer with
  | step stack name ih =>
  intro walked p q b hp hrun
  rw [List.append_nil]
  cases hk : Entries.get? name p.flattened with
  | some body =>
    rw [named_of_remembered pointer hk] at hrun
    cases hrun
    exact ⟨hp, List.suffix_rfl⟩
  | none =>
    by_cases hm : name ∈ stack
    · rw [named_of_mem pointer hk hm] at hrun
      cases hrun
    · cases hg : Entries.get? name declared with
      | none =>
        rw [named_of_get?_none pointer hk hm hg] at hrun
        cases hrun
      | some s =>
        rw [named_of_get?_some pointer hk hm hg] at hrun
        obtain ⟨body, r, hwalk, hremember⟩ := run_bind_ok hrun
        cases hremember
        -- the name goes on the stack, on which nothing is remembered
        have hstack : p.Accounted declared (name :: stack) walked := by
          refine { hp with fresh := fun n hn => ?_ }
          rcases List.mem_cons.1 hn with rfl | hn
          · intro hmem
            obtain ⟨body, hbody⟩ := Entries.exists_get?_iff.2 hmem
            rw [hk] at hbody
            cases hbody
          · exact hp.fresh n hn
        have hmeets := flatten_meets fun inner hinner => ih hm s hg _ (List.mem_map_of_mem hinner) inner
        obtain ⟨hr, hsuffix⟩ := hmeets hstack hwalk
        exact ⟨hr.remember hm hg b, hsuffix.trans (List.suffix_cons _ _)⟩

theorem resolve_meets (s : Schema) : (resolve declared s).Meets declared [] s.pointers :=
  flatten_meets fun pointer _ => named_meets [] _ pointer

theorem component_meets (name : String) : (component declared name).Meets declared [] [] :=
  named_meets [] name (Pointer.ofName name)

theorem mem_flattened_of_named {pointer : String} (h : (named declared stack name pointer).run.run p = (.ok b, q)) :
    name ∈ Entries.names q.flattened := by
  cases hk : Entries.get? name p.flattened with
  | some body =>
    rw [named_of_remembered pointer hk] at h
    cases h
    exact Entries.exists_get?_iff.1 ⟨b, hk⟩
  | none =>
    by_cases hm : name ∈ stack
    · rw [named_of_mem pointer hk hm] at h
      cases h
    · cases hg : Entries.get? name declared with
      | none =>
        rw [named_of_get?_none pointer hk hm hg] at h
        cases h
      | some s =>
        rw [named_of_get?_some pointer hk hm hg] at h
        obtain ⟨body, r, hwalk, hremember⟩ := run_bind_ok h
        cases hremember
        exact List.mem_cons_self

/-- Asking for names one after the other, all of them are remembered in the end. -/
theorem mem_flattened_of_components {names : List String} (hp : p.Accounted declared [] [])
    (h : (forM names fun name => effect (component declared name)).run.run p = (.ok (), q)) :
    ∀ n ∈ names, n ∈ Entries.names q.flattened := by
  induction names generalizing p with
  | nil => simp
  | cons name names ih =>
    rw [List.forM_cons] at h
    obtain ⟨_, r, hfirst, hrest⟩ := run_bind_ok h
    obtain ⟨hr, -⟩ := (component_meets name).effect hp hfirst
    obtain ⟨-, hsuffix⟩ := Meets.forM (fun name _ => (component_meets name).effect) hr hrest
    intro n hn
    rcases List.mem_cons.1 hn with rfl | hn
    · rw [effect, map_eq_pure_bind] at hfirst
      obtain ⟨body, r', hnamed, hpure⟩ := run_bind_ok hfirst
      cases hpure
      exact (hsuffix.map Prod.fst).subset (mem_flattened_of_named hnamed)
    · exact ih hr hrest n hn

end Resolver

/-! ## Documents -/

/-- The pointers of all references in a document: in its named schemas and in the schemas of its parameters, at any
depth, each as often as it stands there. -/
def Document.pointers (d : Document) : List String := d.schemaRoots.flatMap Schema.pointers

/-- The references in declared schemas, by name. -/
theorem Document.flatMap_pointersOf (d : Document) :
    (Entries.names d.declared).flatMap (Resolver.pointersOf d.declared) =
      d.declared.flatMap fun e => e.2.pointers := by
  have hone : ∀ e ∈ d.declared, Resolver.pointersOf d.declared e.1 = e.2.pointers := by
    intro e he
    simp [Resolver.pointersOf, Entries.get?_of_mem d.nodup_declared he]
  rw [Entries.names, List.flatMap_map, List.flatMap_def, List.flatMap_def, List.map_congr_left hone]

/-- **Every reference is reported once**: the warnings of a document that resolves are those of the pointers of its
references, each as often as it stands in the document. -/
theorem Document.resolve_warnings {d flat : Document} (h : d.resolve.1 = .ok flat) :
    d.resolve.2.Perm (d.pointers.flatMap Warning.ofPointer) := by
  obtain ⟨q, hrun, hwarnings⟩ : ∃ q, (Resolver.document d).run.run {} = (.ok flat, q) ∧ d.resolve.2 = q.warnings :=
    ⟨((Resolver.document d).run.run {}).2, Prod.ext h rfl, rfl⟩
  have heffect := Resolution.run_effect_ok hrun
  rw [Resolver.document_eq, effect_document] at heffect
  obtain ⟨_, r, hnames, hschemas⟩ := Resolution.run_bind_ok heffect
  obtain ⟨hr, -⟩ := Resolution.Meets.forM (fun name _ => (Resolver.component_meets name).effect) .empty hnames
  have hnone : ((Entries.names d.declared).flatMap fun _ => ([] : List String)) = [] :=
    List.flatMap_eq_nil_iff.2 fun _ _ => rfl
  rw [List.nil_append, hnone] at hr
  obtain ⟨hq, hsuffix⟩ := Resolution.Meets.forM (fun s _ => (Resolver.resolve_meets s).effect) hr hschemas
  -- in the end exactly the declared names are remembered, each of them once
  have hremembered : (Entries.names q.flattened).Perm (Entries.names d.declared) := by
    refine (List.perm_ext_iff_of_nodup hq.nodup d.nodup_declared).2 fun n => ⟨hq.known n, fun hn => ?_⟩
    exact (hsuffix.map Prod.fst).subset (Resolver.mem_flattened_of_components .empty hnames n hn)
  have hpointers : (d.parameterSchemas.flatMap Schema.pointers ++
      (Entries.names q.flattened).flatMap (Resolver.pointersOf d.declared)).Perm d.pointers := by
    rw [Document.pointers, Document.schemaRoots, List.flatMap_append, List.flatMap_map, ← Document.flatMap_pointersOf]
    exact ((hremembered.flatMap_right _).append_left _).trans List.perm_append_comm
  rw [hwarnings]
  exact hq.warnings.trans (hpointers.flatMap_right _)

end ApiValidators
