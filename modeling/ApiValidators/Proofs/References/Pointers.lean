import ApiValidators.Proofs.References.Walk
import ApiValidators.Schema.Basic

/-!
# References and what takes their place

`Schema.pointers` lists the references of a schema in the order in which they are met. `Schema.substitute` is the walk
that visits every part of a schema; `Schema.flatten` passes over bodies without references. The two agree in every
monad (`flatten_eq_substitute`): nothing is lost, and nothing happens earlier or later, by the short cut.
-/

namespace ApiValidators.Schema

/-! ## The references of a schema -/

mutual

/-- The pointers of the references in a schema, at any depth, in the order in which they are met. -/
def pointers : Schema → List String
  | reference pointer => [pointer]
  | inline b => pointersBody b

def pointersBody : Body Schema → List String
  | ⟨_, items, properties, allOf, anyOf, oneOf, extras⟩ =>
    pointersEach allOf ++ pointersEach anyOf ++ pointersEach oneOf ++ pointersOption items ++ pointersExtras extras ++
      pointersProperties properties

def pointersOption : Option Schema → List String
  | none => []
  | some s => pointers s

def pointersEach : List Schema → List String
  | [] => []
  | s :: ss => pointers s ++ pointersEach ss

def pointersProperties : List (String × Schema) → List String
  | [] => []
  | (_, s) :: ss => pointers s ++ pointersProperties ss

def pointersExtras : Option (Extras Schema) → List String
  | some (.each s) => pointers s
  | some (.flag _) | none => []

end

theorem pointersEach_eq (ss : List Schema) : pointersEach ss = ss.flatMap pointers := by
  induction ss with
  | nil => rfl
  | cons s ss ih => simp [pointersEach, ih]

theorem pointersProperties_eq (es : List (String × Schema)) :
    pointersProperties es = (es.map Prod.snd).flatMap pointers := by
  induction es with
  | nil => rfl
  | cons e es ih => simp [pointersProperties, ih]

/-- The references of a body are those directly and further below it, in the order of `Body.below`. -/
@[simp] theorem pointers_inline (b : Body Schema) : (inline b).pointers = b.below.flatMap pointers := by
  obtain ⟨own, items, properties, allOf, anyOf, oneOf, extras⟩ := b
  have hi : pointersOption items = items.toList.flatMap pointers := by cases items <;> simp [pointersOption]
  have hx : pointersExtras extras = (Extras.schema? extras).toList.flatMap pointers := by
    rcases extras with _ | ⟨_ | _⟩ <;> simp [pointersExtras, Extras.schema?]
  simp only [pointers, pointersBody, pointersEach_eq, pointersProperties_eq, hi, hx, Body.below, List.flatMap_append]

@[simp] theorem pointers_reference (pointer : String) : (reference pointer).pointers = [pointer] := rfl

theorem refersEach_eq (ss : List Schema) : refersEach ss = ss.any refers := by
  induction ss with
  | nil => rfl
  | cons s ss ih => simp [refersEach, ih]

theorem refersProperties_eq (es : List (String × Schema)) : refersProperties es = (es.map Prod.snd).any refers := by
  induction es with
  | nil => rfl
  | cons e es ih => simp [refersProperties, ih]

theorem refers_inline (b : Body Schema) : (inline b).refers = b.below.any refers := by
  obtain ⟨own, items, properties, allOf, anyOf, oneOf, extras⟩ := b
  have hi : refersOption items = items.toList.any refers := by cases items <;> simp [refersOption]
  have hx : refersExtras extras = (Extras.schema? extras).toList.any refers := by
    rcases extras with _ | ⟨_ | _⟩ <;> simp [refersExtras, Extras.schema?]
  simp only [refers, refersBody, refersEach_eq, refersProperties_eq, hi, hx, Body.below, List.any_append]

theorem refers_eq_false_iff (s : Schema) : s.refers = false ↔ s.pointers = [] := by
  induction s using below_induction with
  | reference pointer => simp [refers]
  | inline b ih =>
    rw [refers_inline, pointers_inline, List.any_eq_false, List.flatMap_eq_nil_iff]
    constructor
    · intro h s hs
      exact (ih s hs).1 (by simpa using h s hs)
    · intro h s hs
      simpa using (ih s hs).2 (h s hs)

/-! ## The walk without a short cut -/

section

variable {m : Type → Type} [Monad m] (answer : String → m (Body Schema))

mutual

/-- The schema as a body, an answer in the place of every reference, every part of it walked. -/
def substitute : Schema → m (Body Schema)
  | reference pointer => answer pointer
  | inline b => substituteBody b

def substituteBody : Body Schema → m (Body Schema)
  | ⟨own, items, properties, allOf, anyOf, oneOf, extras⟩ => do
    let allOf ← substituteEach allOf
    let anyOf ← substituteEach anyOf
    let oneOf ← substituteEach oneOf
    let items ← substituteOption items
    let extras ← substituteExtras extras
    let properties ← substituteProperties properties
    pure ⟨own, items, properties, allOf, anyOf, oneOf, extras⟩

def substituteOption : Option Schema → m (Option Schema)
  | none => pure none
  | some s => do
    let b ← substitute s
    pure (some (inline b))

def substituteEach : List Schema → m (List Schema)
  | [] => pure []
  | s :: ss => do
    let b ← substitute s
    let bs ← substituteEach ss
    pure (inline b :: bs)

def substituteProperties : List (String × Schema) → m (List (String × Schema))
  | [] => pure []
  | (name, s) :: ss => do
    let b ← substitute s
    let bs ← substituteProperties ss
    pure ((name, inline b) :: bs)

def substituteExtras : Option (Extras Schema) → m (Option (Extras Schema))
  | some (.each s) => do
    let b ← substitute s
    pure (some (.each (inline b)))
  | some (.flag b) => pure (some (.flag b))
  | none => pure none

end

variable [LawfulMonad m]

theorem substituteEach_eq (ss : List Schema) :
    substituteEach answer ss = ss.mapM fun s => inline <$> substitute answer s := by
  induction ss with
  | nil => simp [substituteEach]
  | cons s ss ih => simp [substituteEach, ih, List.mapM_cons]

theorem substituteProperties_eq (es : List (String × Schema)) :
    substituteProperties answer es = es.mapM fun e => (e.1, ·) <$> inline <$> substitute answer e.2 := by
  induction es with
  | nil => simp [substituteProperties]
  | cons e es ih => simp [substituteProperties, ih, List.mapM_cons]

theorem substitute_inline (b : Body Schema) :
    substitute answer (inline b) = b.mapM fun s => inline <$> substitute answer s := by
  obtain ⟨own, items, properties, allOf, anyOf, oneOf, extras⟩ := b
  have hi : substituteOption answer items = items.mapM fun s => inline <$> substitute answer s := by
    cases items <;> simp [substituteOption]
  have hx : substituteExtras answer extras = Extras.mapM (fun s => inline <$> substitute answer s) extras := by
    rcases extras with _ | ⟨_ | _⟩ <;> simp [substituteExtras, Extras.mapM]
  simp only [substitute, substituteBody, Body.mapM, substituteEach_eq, substituteProperties_eq, hi, hx]

end

/-! ## The short cut -/

section

variable {m : Type → Type} [Monad m] [LawfulMonad m] (answer : String → m (Body Schema))

theorem flattenEach_eq (ss : List Schema) :
    flattenEach answer ss = ss.mapM fun s => inline <$> flatten answer s := by
  induction ss with
  | nil => simp [flattenEach]
  | cons s ss ih => simp [flattenEach, ih, List.mapM_cons]

theorem flattenProperties_eq (es : List (String × Schema)) :
    flattenProperties answer es = es.mapM fun e => (e.1, ·) <$> inline <$> flatten answer e.2 := by
  induction es with
  | nil => simp [flattenProperties]
  | cons e es ih => simp [flattenProperties, ih, List.mapM_cons]

theorem flatten_inline (b : Body Schema) :
    flatten answer (inline b) =
      if (inline b).refers then b.mapM fun s => inline <$> flatten answer s else pure b := by
  obtain ⟨own, items, properties, allOf, anyOf, oneOf, extras⟩ := b
  have hi : flattenOption answer items = items.mapM fun s => inline <$> flatten answer s := by
    cases items <;> simp [flattenOption]
  have hx : flattenExtras answer extras = Extras.mapM (fun s => inline <$> flatten answer s) extras := by
    rcases extras with _ | ⟨_ | _⟩ <;> simp [flattenExtras, Extras.mapM]
  simp only [flatten, flattenBody, refers, Body.mapM, flattenEach_eq, flattenProperties_eq, hi, hx]
  rfl

theorem substitute_of_pointers_nil (s : Schema) (h : s.pointers = []) : inline <$> substitute answer s = pure s := by
  induction s using below_induction with
  | reference pointer => simp at h
  | inline b ih =>
    rw [pointers_inline, List.flatMap_eq_nil_iff] at h
    rw [substitute_inline, Lockstep.eq.bodyMapM fun s hs => ih s hs (h s hs), Body.mapM_pure, map_pure]

/-- **The short cut changes nothing**: passing over bodies without references gives the same run as the walk that
visits every part. -/
theorem flatten_eq_substitute (s : Schema) : flatten answer s = substitute answer s := by
  induction s using below_induction with
  | reference pointer => rfl
  | inline b ih =>
    rw [flatten_inline, substitute_inline]
    by_cases hr : (inline b).refers = true
    · rw [if_pos hr]
      exact Lockstep.eq.bodyMapM fun s hs => congrArg (inline <$> ·) (ih s hs)
    · rw [if_neg hr]
      have hp := (refers_eq_false_iff (inline b)).1 (by simpa using hr)
      rw [pointers_inline, List.flatMap_eq_nil_iff] at hp
      rw [Lockstep.eq.bodyMapM fun s hs => substitute_of_pointers_nil answer s (hp s hs), Body.mapM_pure]

end

end ApiValidators.Schema

/-- A walk keeps a relation between runs, if the answers to the schema's references do. -/
theorem ApiValidators.Lockstep.substitute {m n : Type → Type} [Monad m] [Monad n] [LawfulMonad m] [LawfulMonad n]
    (L : Lockstep m n) {f : String → m (Body Schema)} {g : String → n (Body Schema)} {s : Schema}
    (h : ∀ p ∈ s.pointers, L.rel (f p) (g p)) : L.rel (s.substitute f) (s.substitute g) := by
  induction s using Schema.below_induction with
  | reference pointer => exact h pointer (by simp)
  | inline b ih =>
    rw [Schema.substitute_inline, Schema.substitute_inline]
    refine L.bodyMapM fun s hs => L.map Schema.inline (ih s hs fun p hp => h p ?_)
    rw [Schema.pointers_inline]
    exact List.mem_flatMap.2 ⟨s, hs, hp⟩
