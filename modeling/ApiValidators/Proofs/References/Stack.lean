import ApiValidators.Proofs.References.Memory
import Mathlib.Data.List.Perm.Subperm

/-!
# The names in progress

A resolver that keeps the names it is flattening in its own state: it puts a name there before it walks the schema of
the name and takes it away afterwards, whether the walk has failed or not. Nothing in it bounds the recursion, which
leads from a reference back to the top of another schema, so that its calls might as well go on for ever (`none`).

They come to an end all the same, with the answers of `Resolver`, and leave the names in progress as they were
(`stack_discipline`). The invariant is `Standing.Orderly`: the names in progress are declared, all different, and none
of them is remembered. So a name that is put there takes room (`room_cons_lt`), which carries the induction over names;
within the schema of one name the induction is on the schema.
-/

namespace ApiValidators.Resolver

variable {declared : List (String × Schema)}

/-! ## A resolver with a stack of its own -/

/-- Where a resolver stands. -/
structure Standing where
  /-- The names whose schemas are being flattened, the innermost first. -/
  inProgress : List String := []
  progress : Progress := {}

namespace Standing

def warn (more : List Warning) (s : Standing) : Standing :=
  { s with progress := { s.progress with warnings := s.progress.warnings ++ more } }

def push (name : String) (s : Standing) : Standing := { s with inProgress := name :: s.inProgress }

def pop (s : Standing) : Standing := { s with inProgress := s.inProgress.tail }

def remember (name : String) (body : Body Schema) (s : Standing) : Standing :=
  { s with progress := { s.progress with flattened := (name, body) :: s.progress.flattened } }

end Standing

/-- A resolver at work: where it stands, and where it has stood before, the latest first. -/
structure Session extends Standing where
  past : List Standing := []

namespace Session

/-- Wherever a resolver has stood. -/
def standings (σ : Session) : List Standing := σ.toStanding :: σ.past

/-- The session at its next standing. -/
def moved (f : Standing → Standing) (σ : Session) : Session := { toStanding := f σ.toStanding, past := σ.standings }

theorem progress_push (name : String) (σ : Session) : (σ.moved (.push name)).progress = σ.progress := rfl

end Session

/-- What a resolver is asked, by others or by itself: for a schema, for a body, or for a name that a pointer led to. -/
inductive Request where
  | schema (s : Schema)
  | body (b : Body Schema)
  | named (name pointer : String)

/-- Work that may fail and may not come to an end. -/
abbrev Working := ExceptT ReferenceError (StateT Session Option)

def Working.move (f : Standing → Standing) : Working Unit := modify (Session.moved f)

/-- `resolve`, `resolve_inline` and `resolve_named` on one `Resolver`: the work on a request, and on all that it leads
to. When a name fails, that is not passed on before the name is taken away again. -/
def Request.work (declared : List (String × Schema)) (request : Request) : Working (Body Schema) :=
  match request with
  | .schema (.reference pointer) => do
    Working.move (.warn (Warning.ofPointer pointer))
    Request.named (Pointer.name pointer) pointer |>.work declared
  | .schema (.inline b) => Request.body b |>.work declared
  | .body b =>
    if b.containsReference then do
      let allOf ← b.allOf.mapM fun s => Schema.inline <$> (Request.schema s |>.work declared)
      let anyOf ← b.anyOf.mapM fun s => Schema.inline <$> (Request.schema s |>.work declared)
      let oneOf ← b.oneOf.mapM fun s => Schema.inline <$> (Request.schema s |>.work declared)
      let items ← b.items.mapM fun s => Schema.inline <$> (Request.schema s |>.work declared)
      let extras ← (match b.additionalProperties with
        | some (.each s) => do
          let t ← Schema.inline <$> (Request.schema s |>.work declared)
          pure (some (.each t))
        | some (.flag b) => pure (some (.flag b))
        | none => pure none)
      let properties ← b.properties.mapM fun e => (e.1, ·) <$> Schema.inline <$> (Request.schema e.2 |>.work declared)
      pure ⟨b.toKeywords, items, properties, allOf, anyOf, oneOf, extras⟩
    else pure b
  | .named name pointer => (do
    let standing := (← get).toStanding
    match Entries.get? name standing.progress.flattened with
    | some b => return .ok b
    | none =>
      if name ∈ standing.inProgress then return .error (.cyclic (chain standing.inProgress name))
      else
        match Entries.get? name declared with
        | none => return .error (.notFound pointer)
        | some target =>
          modify (.moved (.push name))
          let outcome ← (Request.schema target |>.work declared).run
          modify (.moved .pop)
          match outcome with
          | .error e => return .error e
          | .ok b =>
            modify (.moved (.remember name b))
            return .ok b : StateT Session Option (Except ReferenceError (Body Schema)))
  partial_fixpoint

/-- The answer of `Resolver` to a request when the names of `stack` are being followed. -/
def Request.onStack (declared : List (String × Schema)) (request : Request) (stack : List String) :
    Resolution (Body Schema) :=
  match request with
  | .schema s => s.flatten (follow declared stack)
  | .body b => (Schema.inline b).flatten (follow declared stack)
  | .named name pointer => Resolver.named declared stack name pointer

/-- The flattened schema a pointer leads to. -/
def Working.follow (declared : List (String × Schema)) (pointer : String) : Working (Body Schema) := do
  Working.move (.warn (Warning.ofPointer pointer))
  (Request.named (Pointer.name pointer) pointer).work declared

theorem Request.work_body_eq_mapM (b : Body Schema) : (Request.body b).work declared =
    if b.containsReference then b.mapM fun s => Schema.inline <$> (Request.schema s).work declared else pure b := by
  rw [work]
  split
  · unfold Body.mapM Extras.mapM
    cases b.additionalProperties with
    | none => rfl
    | some extras => cases extras <;> rfl
  · rfl

theorem Request.work_schema (s : Schema) : (Request.schema s).work declared = s.flatten (Working.follow declared) := by
  induction s using Schema.below_induction with
  | reference pointer =>
    rw [work]
    rfl
  | inline b ih =>
    have hwalk : (b.mapM fun s => Schema.inline <$> (Request.schema s).work declared) =
        b.mapM fun s => Schema.inline <$> s.flatten (Working.follow declared) :=
      Lockstep.eq.bodyMapM fun s hs => congrArg (Schema.inline <$> ·) (ih s hs)
    rw [Schema.flatten_inline, ← hwalk, work, work_body_eq_mapM]
    rfl

theorem Request.work_body (b : Body Schema) :
    (Request.body b).work declared = (Schema.inline b).flatten (Working.follow declared) := by
  rw [← work_schema, work]

/-! ## Runs -/

variable {α β : Type} {σ σ' : Session}

theorem Working.run_bind_of_ok {x : Working α} {f : α → Working β} {a : α} (h : x.run.run σ = some (.ok a, σ')) :
    (x >>= f).run.run σ = (f a).run.run σ' := by
  have hrun : (x >>= f).run.run σ = (x.run.run σ).bind fun r => ExceptT.bindCont f r.1 r.2 := rfl
  rw [hrun, h]
  rfl

theorem Working.run_bind_of_error {x : Working α} {f : α → Working β} {e : ReferenceError}
    (h : x.run.run σ = some (.error e, σ')) : (x >>= f).run.run σ = some (.error e, σ') := by
  have hrun : (x >>= f).run.run σ = (x.run.run σ).bind fun r => ExceptT.bindCont f r.1 r.2 := rfl
  rw [hrun, h]
  rfl

namespace Request

variable {name : String}

theorem work_of_remembered (pointer : String) {b : Body Schema} (h : Entries.get? name σ.progress.flattened = some b) :
    ((Request.named name pointer).work declared).run.run σ = some (.ok b, σ) := by
  rw [work, ExceptT.run]
  simp [h]

theorem work_of_mem (pointer : String) (h : Entries.get? name σ.progress.flattened = none) (hm : name ∈ σ.inProgress) :
    ((Request.named name pointer).work declared).run.run σ =
      some (.error (.cyclic (chain σ.inProgress name)), σ) := by
  rw [work, ExceptT.run]
  simp [h, hm]

theorem work_of_get?_none (pointer : String) (h : Entries.get? name σ.progress.flattened = none)
    (hm : name ∉ σ.inProgress) (hg : Entries.get? name declared = none) :
    ((Request.named name pointer).work declared).run.run σ = some (.error (.notFound pointer), σ) := by
  rw [work, ExceptT.run]
  simp [h, hm, hg]

/-- A name met for the first time is in progress while its schema is walked, and is taken away if that fails. -/
theorem work_of_error (pointer : String) {s : Schema} {e : ReferenceError}
    (h : Entries.get? name σ.progress.flattened = none) (hm : name ∉ σ.inProgress)
    (hg : Entries.get? name declared = some s)
    (hrun : ((Request.schema s).work declared).run.run (σ.moved (.push name)) = some (.error e, σ')) :
    ((Request.named name pointer).work declared).run.run σ = some (.error e, σ'.moved .pop) := by
  rw [work, ExceptT.run]
  simp [h, hm, hg, hrun]

/-- It is taken away before what it stands for is remembered. -/
theorem work_of_ok (pointer : String) {s : Schema} {b : Body Schema}
    (h : Entries.get? name σ.progress.flattened = none) (hm : name ∉ σ.inProgress)
    (hg : Entries.get? name declared = some s)
    (hrun : ((Request.schema s).work declared).run.run (σ.moved (.push name)) = some (.ok b, σ')) :
    ((Request.named name pointer).work declared).run.run σ =
      some (.ok b, (σ'.moved .pop).moved (.remember name b)) := by
  rw [work, ExceptT.run]
  simp [h, hm, hg, hrun]

end Request

/-! ## Standings in order -/

/-- What holds wherever a resolver stands: the names in progress are declared and all different, none of them is
remembered, and what is remembered is remembered once, for declared names. -/
structure Standing.Orderly (declared : List (String × Schema)) (s : Standing) : Prop where
  nodup : s.inProgress.Nodup
  known : ∀ n ∈ s.inProgress, n ∈ Entries.names declared
  fresh : ∀ n ∈ s.inProgress, n ∉ Entries.names s.progress.flattened
  once : (Entries.names s.progress.flattened).Nodup
  remembered : ∀ n ∈ Entries.names s.progress.flattened, n ∈ Entries.names declared

namespace Standing.Orderly

variable {s : Standing} {name : String}

theorem start : ({} : Standing).Orderly declared where
  nodup := List.nodup_nil
  known := fun _ hn => absurd hn List.not_mem_nil
  fresh := fun _ hn => absurd hn List.not_mem_nil
  once := List.nodup_nil
  remembered := fun _ hn => absurd hn List.not_mem_nil

theorem warn (h : s.Orderly declared) (more : List Warning) : (s.warn more).Orderly declared :=
  ⟨h.nodup, h.known, h.fresh, h.once, h.remembered⟩

/-- A declared name that is neither in progress nor remembered may be put in progress. -/
theorem push (h : s.Orderly declared) (hdeclared : name ∈ Entries.names declared) (hm : name ∉ s.inProgress)
    (hk : name ∉ Entries.names s.progress.flattened) : (s.push name).Orderly declared where
  nodup := List.nodup_cons.2 ⟨hm, h.nodup⟩
  known := List.forall_mem_cons.2 ⟨hdeclared, h.known⟩
  fresh := List.forall_mem_cons.2 ⟨hk, h.fresh⟩
  once := h.once
  remembered := h.remembered

theorem pop (h : s.Orderly declared) : s.pop.Orderly declared where
  nodup := h.nodup.sublist (List.tail_sublist _)
  known := fun n hn => h.known n (List.mem_of_mem_tail hn)
  fresh := fun n hn => h.fresh n (List.mem_of_mem_tail hn)
  once := h.once
  remembered := h.remembered

/-- A declared name may be remembered as soon as it is no longer in progress. -/
theorem remember (h : s.Orderly declared) (hdeclared : name ∈ Entries.names declared) (hm : name ∉ s.inProgress)
    (hk : name ∉ Entries.names s.progress.flattened) (body : Body Schema) :
    (s.remember name body).Orderly declared where
  nodup := h.nodup
  known := h.known
  fresh := by
    intro n hn hmem
    rcases List.mem_cons.1 hmem with rfl | hmem
    · exact hm hn
    · exact h.fresh n hn hmem
  once := List.nodup_cons.2 ⟨hk, h.once⟩
  remembered := List.forall_mem_cons.2 ⟨hdeclared, h.remembered⟩

theorem length_le (h : s.Orderly declared) : s.inProgress.length ≤ declared.length := by
  have hle := (List.subperm_of_subset h.nodup h.known).length_le
  rwa [Entries.names, List.length_map] at hle

end Standing.Orderly

/-! ## Sessions in order -/

namespace Session

/-- Whether a resolver has stood in order all the time. -/
def Orderly (declared : List (String × Schema)) (σ : Session) : Prop := ∀ s ∈ σ.standings, s.Orderly declared

/-- How a call leaves a session behind: in order, with the names in progress that were so before it, with all that was
remembered before it, and with nothing of the past forgotten. -/
structure Returned (declared : List (String × Schema)) (σ σ' : Session) : Prop where
  orderly : σ'.Orderly declared
  inProgress : σ'.inProgress = σ.inProgress
  gained : σ.progress.flattened <:+ σ'.progress.flattened
  past : σ.standings <:+ σ'.standings

variable {σ σ' σ'' : Session}

theorem Orderly.here (h : σ.Orderly declared) : σ.toStanding.Orderly declared := h _ List.mem_cons_self

theorem Orderly.start : ({} : Session).Orderly declared := List.forall_mem_singleton.2 .start

theorem Orderly.moved {f : Standing → Standing} (h : σ.Orderly declared) (hf : (f σ.toStanding).Orderly declared) :
    (σ.moved f).Orderly declared := List.forall_mem_cons.2 ⟨hf, h⟩

theorem past_moved (f : Standing → Standing) (σ : Session) : σ.standings <:+ (σ.moved f).standings :=
  List.suffix_cons _ _

theorem Returned.refl (h : σ.Orderly declared) : Returned declared σ σ := ⟨h, rfl, List.suffix_rfl, List.suffix_rfl⟩

theorem Returned.trans (h : Returned declared σ σ') (h' : Returned declared σ' σ'') : Returned declared σ σ'' :=
  ⟨h'.orderly, h'.inProgress.trans h.inProgress, h.gained.trans h'.gained, h.past.trans h'.past⟩

/-- A name that is put in progress before a call is the one that is taken away after it. -/
theorem Returned.pop {name : String} (h : Returned declared (σ.moved (.push name)) σ') :
    Returned declared σ (σ'.moved .pop) where
  orderly := h.orderly.moved h.orderly.here.pop
  inProgress := by
    have hstack : σ'.inProgress = name :: σ.inProgress := h.inProgress
    calc (σ'.moved .pop).inProgress = σ'.inProgress.tail := rfl
      _ = σ.inProgress := by rw [hstack, List.tail_cons]
  gained := h.gained
  past := ((σ.past_moved _).trans h.past).trans (σ'.past_moved _)

theorem Returned.remember {name : String} (h : Returned declared σ σ') (hdeclared : name ∈ Entries.names declared)
    (hm : name ∉ σ.inProgress) (hk : name ∉ Entries.names σ'.progress.flattened) (b : Body Schema) :
    Returned declared σ (σ'.moved (.remember name b)) where
  orderly := h.orderly.moved (h.orderly.here.remember hdeclared (by rwa [h.inProgress]) hk b)
  inProgress := h.inProgress
  gained := h.gained.trans (List.suffix_cons _ _)
  past := h.past.trans (σ'.past_moved _)

end Session

/-! ## Calls come to an end -/

/-- From a session in order a call comes to an end, with the outcome that another one has with the names in progress as
its stack, and leaves the session as calls do. -/
def Settles {α : Type} (declared : List (String × Schema)) (x : Working α) (y : List String → Resolution α) : Prop :=
  ∀ σ : Session, σ.Orderly declared → ∃ σ', x.run.run σ = some (((y σ.inProgress).run.run σ.progress).1, σ') ∧
    σ'.progress = ((y σ.inProgress).run.run σ.progress).2 ∧ σ.Returned declared σ'

/-- `Settles` for one stack, which sequencing keeps. -/
def settling (declared : List (String × Schema)) (stack : List String) : Lockstep Working Resolution where
  rel x y := ∀ σ : Session, σ.Orderly declared → σ.inProgress = stack →
    ∃ σ', x.run.run σ = some ((y.run.run σ.progress).1, σ') ∧ σ'.progress = (y.run.run σ.progress).2 ∧
      σ.Returned declared σ'
  pure _ σ hσ _ := ⟨σ, rfl, rfl, .refl hσ⟩
  bind {_ _ x y f g} hx hf σ hσ hstack := by
    obtain ⟨σ₁, hrun, hp, hreturned⟩ := hx σ hσ hstack
    rcases hy : y.run.run σ.progress with ⟨e | a, p⟩
    · rw [hy] at hrun hp
      rw [Resolution.run_bind_of_error hy]
      exact ⟨σ₁, Working.run_bind_of_error hrun, hp, hreturned⟩
    · rw [hy] at hrun hp
      obtain ⟨σ₂, hrun₂, hp₂, hreturned₂⟩ := hf a σ₁ hreturned.orderly (hreturned.inProgress.trans hstack)
      rw [Resolution.run_bind_of_ok hy, Working.run_bind_of_ok hrun, hrun₂]
      rw [hp] at hp₂ ⊢
      exact ⟨σ₂, rfl, hp₂, hreturned.trans hreturned₂⟩

theorem settles_iff {α : Type} {x : Working α} {y : List String → Resolution α} :
    Settles declared x y ↔ ∀ stack, (settling declared stack).rel x (y stack) := by
  constructor
  · rintro h stack σ hσ rfl
    exact h σ hσ
  · exact fun h σ hσ => h σ.inProgress σ hσ rfl

theorem warn_settling (stack : List String) (more : List Warning) :
    (settling declared stack).rel (Working.move (.warn more)) (Resolution.warn more) :=
  fun σ hσ _ => ⟨σ.moved (.warn more), rfl, rfl, hσ.moved (hσ.here.warn more), rfl, List.suffix_rfl, σ.past_moved _⟩

theorem schema_settling {stack : List String} (s : Schema)
    (h : ∀ p ∈ s.pointers, (settling declared stack).rel (Working.follow declared p) (follow declared stack p)) :
    (settling declared stack).rel ((Request.schema s).work declared) (s.flatten (follow declared stack)) := by
  rw [Request.work_schema, Schema.flatten_eq_substitute, Schema.flatten_eq_substitute]
  exact Lockstep.substitute _ h

/-- **Following a name comes to an end.** With each name that is put in progress there is less room. -/
theorem named_settling (stack : List String) (name pointer : String) :
    (settling declared stack).rel ((Request.named name pointer).work declared) (named declared stack name pointer) := by
  induction stack, name using Substitution.stack_induction declared generalizing pointer with
  | step stack name ih =>
  rintro σ hσ rfl
  cases hk : Entries.get? name σ.progress.flattened with
  | some b =>
    rw [named_of_remembered pointer hk]
    exact ⟨σ, Request.work_of_remembered pointer hk, rfl, .refl hσ⟩
  | none =>
    by_cases hm : name ∈ σ.inProgress
    · rw [named_of_mem pointer hk hm]
      exact ⟨σ, Request.work_of_mem pointer hk hm, rfl, .refl hσ⟩
    · cases hg : Entries.get? name declared with
      | none =>
        rw [named_of_get?_none pointer hk hm hg]
        exact ⟨σ, Request.work_of_get?_none pointer hk hm hg, rfl, .refl hσ⟩
      | some s =>
        have hdeclared : name ∈ Entries.names declared := Entries.exists_get?_iff.1 ⟨s, hg⟩
        have hfresh : name ∉ Entries.names σ.progress.flattened := fun hmem => by
          obtain ⟨b, hb⟩ := Entries.exists_get?_iff.2 hmem
          cases hk.symm.trans hb
        have hwalk := schema_settling s fun p hp => (settling declared (name :: σ.inProgress)).bind (warn_settling _ _)
          fun _ => ih hm s hg _ (List.mem_map_of_mem hp) p
        obtain ⟨σ₁, hrun, hp, hreturned⟩ := hwalk (σ.moved (.push name))
          (hσ.moved (hσ.here.push hdeclared hm hfresh)) rfl
        rw [Session.progress_push] at hrun hp
        rw [named_of_get?_some pointer hk hm hg]
        rcases hr : (s.flatten (follow declared (name :: σ.inProgress))).run.run σ.progress with ⟨e | b, p⟩
        · rw [hr] at hrun hp
          rw [Resolution.run_bind_of_error hr]
          exact ⟨_, Request.work_of_error pointer hk hm hg hrun, hp, hreturned.pop⟩
        · rw [hr] at hrun hp
          rw [Resolution.run_bind_of_ok hr]
          obtain rfl : σ₁.progress = p := hp
          -- the walk has left the name in progress, so it has not been remembered
          have hinner : name ∈ σ₁.inProgress := hreturned.inProgress ▸ List.mem_cons_self
          have hunknown : name ∉ Entries.names σ₁.progress.flattened := hreturned.orderly.here.fresh name hinner
          exact ⟨_, Request.work_of_ok pointer hk hm hg hrun, rfl, hreturned.pop.remember hdeclared hm hunknown b⟩

theorem request_settling (stack : List String) (request : Request) :
    (settling declared stack).rel (request.work declared) (request.onStack declared stack) := by
  have hschema : ∀ s : Schema, (settling declared stack).rel ((Request.schema s).work declared)
      (s.flatten (follow declared stack)) := fun s =>
    schema_settling s fun _ _ => (settling declared stack).bind (warn_settling _ _) fun _ => named_settling _ _ _
  cases request with
  | schema s => exact hschema s
  | body b =>
    rw [Request.work_body, ← Request.work_schema]
    exact hschema (.inline b)
  | named name pointer => exact named_settling stack name pointer

/-! ## Sessions of calls -/

def Call.request : Call → Request
  | schema s => .schema s
  | component name => .named name (Pointer.ofName name)

/-- Calls made in turn, which go on after a failure. -/
def Working.answers (declared : List (String × Schema)) (calls : List Call) :
    StateT Session Option (List (Except ReferenceError (Body Schema))) :=
  calls.mapM fun call => (call.request.work declared).run

theorem Call.run_eq_onStack (call : Call) : call.run declared = call.request.onStack declared [] := by
  cases call <;> rfl

/-- Calls made in turn come to an end with the answers of `Resolver`. -/
theorem answers_settling {σ : Session} (hσ : σ.Orderly declared) (hstack : σ.inProgress = []) (calls : List Call) :
    ∃ σ', (Working.answers declared calls).run σ = some (answers declared σ.progress calls, σ') ∧
      σ'.progress = after declared σ.progress calls ∧ σ.Returned declared σ' := by
  induction calls generalizing σ with
  | nil => exact ⟨σ, rfl, rfl, .refl hσ⟩
  | cons call calls ih =>
    obtain ⟨σ₁, hrun₁, hp₁, hreturned₁⟩ := request_settling [] call.request σ hσ hstack
    rw [← call.run_eq_onStack] at hrun₁ hp₁
    obtain ⟨σ₂, hrun₂, hp₂, hreturned₂⟩ := ih hreturned₁.orderly (hreturned₁.inProgress.trans hstack)
    rw [hp₁] at hrun₂ hp₂
    refine ⟨σ₂, ?_, hp₂, hreturned₁.trans hreturned₂⟩
    rw [Working.answers] at hrun₂ ⊢
    rw [List.mapM_cons, StateT.run_bind, hrun₁]
    simp [hrun₂, answers]

/-- **The names in progress bound the recursion.** From a session in order, the work on any request comes to an end, with
the answer of `Resolver` on the names in progress as its stack; the names in progress are then the same as before, and
what was remembered still is. So any calls to one resolver come to an end with the answers of `Resolver` and nothing in
progress. Wherever the resolver stood meanwhile, at the start of every request that these led to, the names in progress
were declared, all different and not remembered, no more than there are declared schemas, and what was remembered was
remembered once, for declared names. -/
theorem stack_discipline (d : Document) :
    (∀ request : Request, Settles d.declared (request.work d.declared) (request.onStack d.declared)) ∧
    ∀ calls, ∃ σ, (Working.answers d.declared calls).run {} = some (answers d.declared {} calls, σ) ∧
      σ.progress = after d.declared {} calls ∧ σ.inProgress = [] ∧
      ∀ s ∈ σ.standings, s.Orderly d.declared ∧ s.inProgress.length ≤ d.declared.length := by
  refine ⟨fun request => settles_iff.2 fun stack => request_settling stack request, fun calls => ?_⟩
  have hstart : ({} : Session).Orderly d.declared := .start
  obtain ⟨σ, hrun, hp, hreturned⟩ := answers_settling hstart rfl calls
  exact ⟨σ, hrun, hp, hreturned.inProgress, fun s hs => ⟨hreturned.orderly s hs, (hreturned.orderly s hs).length_le⟩⟩

/-- A person who employs others, in a household with a pet. -/
def household : Document where
  schemas := some ⟨[
    ("Person", .inline { properties := [
      ("pet", .reference "#/components/schemas/Pet"),
      ("staff", .inline { items := some (.reference "#/components/schemas/Staff") })] }),
    ("Staff", .inline { allOf := [.reference "#/components/schemas/Pet", .reference "#/components/schemas/Person"] }),
    ("Pet", .inline { type := some (.one "string") })], by decide⟩

/-- With a person in progress, a reference to the staff comes round to the person, and leaves only the person in
progress; whoever asks for persons first is answered about pets afterwards. -/
theorem stack_discipline_household :
    (∃ σ, ((Request.schema (.reference "Staff")).work household.declared).run.run { inProgress := ["Person"] } =
      some (.error (.cyclic ["Person", "Staff", "Person"]), σ) ∧ σ.inProgress = ["Person"]) ∧
    ∃ outcomes σ, (Working.answers household.declared [.component "Person", .schema (.reference "Pet")]).run {} =
      some (outcomes, σ) ∧ outcomes.map failure? = [some (.cyclic ["Person", "Staff", "Person"]), none] ∧
      σ.inProgress = [] := by
  obtain ⟨hrequest, hanswers⟩ := stack_discipline household
  constructor
  · have hperson : ({ inProgress := ["Person"] } : Standing).Orderly household.declared := by
      constructor <;> decide
    obtain ⟨σ, hrun, -, hreturned⟩ := hrequest (.schema (.reference "Staff")) { inProgress := ["Person"] }
      (List.forall_mem_singleton.2 hperson)
    have hcycle : (((Schema.reference "Staff").flatten (follow household.declared ["Person"])).run.run {}).1 =
        .error (.cyclic ["Person", "Staff", "Person"]) := failure?_eq_some_iff.1 (by decide +kernel)
    refine ⟨σ, ?_, hreturned.inProgress⟩
    rw [← hcycle]
    exact hrun
  · obtain ⟨σ, hrun, -, hstack, -⟩ := hanswers [.component "Person", .schema (.reference "Pet")]
    exact ⟨_, σ, hrun, by decide +kernel, hstack⟩

end ApiValidators.Resolver
