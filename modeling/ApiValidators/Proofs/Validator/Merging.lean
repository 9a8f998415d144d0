import ApiValidators.Proofs.Validator.Building

/-!
# What `allOf` comes to

The start of a body and its branches absorb one another from left to right, and each step either merges or replaces.
`Expr.Merged` tells the outcome without the steps: the first object stays and takes in every later part, whatever that
is, and of the parts before it nothing is left; where no part is an object, only the last one is left. The steps come to
exactly this (`merged_iff`), since an object stays one when something is merged into it, so that there is one change at
most from replacing to merging. Behind the outcome stand the body's own modifiers (`build_allOf`).
-/

namespace ApiValidators

namespace Expr

/-- The base and the modifiers that parts come to when they absorb one another from left to right. A bare name that is
left becomes the base of a chain. -/
inductive Merged : List Expr → Base Expr → List (Modifier Expr) → Prop where
  | object {before : List Expr} (replaced : ∀ e ∈ before, e.isObjectCall = false) (members : List (Member Expr))
      (modifiers : List (Modifier Expr)) (after : List Expr) :
      Merged (before ++ call (.object members) modifiers :: after) (.object members)
        (modifiers ++ after.map (Modifier.ofExpr "merge"))
  | call {before : List Expr} (replaced : ∀ e ∈ before, e.isObjectCall = false) {base : Base Expr}
      (hbase : base.isObject = false) (modifiers : List (Modifier Expr)) :
      Merged (before ++ [call base modifiers]) base modifiers
  | identifier {before : List Expr} (replaced : ∀ e ∈ before, e.isObjectCall = false) (name : String) :
      Merged (before ++ [identifier name]) (.named name) []

theorem Merged.cons {e : Expr} {parts : List Expr} {base : Base Expr} {modifiers : List (Modifier Expr)}
    (he : e.isObjectCall = false) (h : Merged parts base modifiers) : Merged (e :: parts) base modifiers := by
  cases h with
  | object replaced members modifiers after =>
    exact .object (List.forall_mem_cons.2 ⟨he, replaced⟩) members modifiers after
  | call replaced hbase modifiers => exact .call (List.forall_mem_cons.2 ⟨he, replaced⟩) hbase modifiers
  | identifier replaced name => exact .identifier (List.forall_mem_cons.2 ⟨he, replaced⟩) name

/-- Parts that are no objects are passed over on the way to the merge point. -/
theorem mergePoint_append {before : List Expr} {e : Expr} (h : ∀ y ∈ e :: before, y.isObjectCall = false) (x : Expr)
    (after : List Expr) : mergePoint e (before ++ x :: after) = mergePoint x after := by
  induction before generalizing e with
  | nil => rw [List.nil_append, mergePoint, if_neg (by simpa using h)]
  | cons y before ih =>
    obtain ⟨he, hbefore⟩ := List.forall_mem_cons.1 h
    rw [List.cons_append, mergePoint, if_neg (by simp [he])]
    exact ih hbefore

theorem mergePoint_of_append {before after branches : List Expr} {e x : Expr}
    (hbefore : ∀ y ∈ before, y.isObjectCall = false) (h : e :: branches = before ++ x :: after) :
    mergePoint e branches = mergePoint x after := by
  cases before with
  | nil =>
    obtain ⟨rfl, rfl⟩ := List.cons.inj h
    rfl
  | cons y before =>
    obtain ⟨rfl, rfl⟩ := List.cons.inj h
    exact mergePoint_append hbefore x after

theorem merged_mergePoint (e : Expr) (branches : List Expr) :
    Merged (e :: branches) (mergePoint e branches).1.base
      ((mergePoint e branches).1.modifiers ++ (mergePoint e branches).2.map (Modifier.ofExpr "merge")) := by
  have hnone : ∀ x ∈ ([] : List Expr), x.isObjectCall = false := by simp
  induction branches generalizing e with
  | nil =>
    cases e with
    | identifier name => exact .identifier hnone name
    | call base modifiers =>
      rw [mergePoint, List.map_nil, List.append_nil]
      cases base with
      | object members =>
        have h := Merged.object hnone members modifiers []
        rwa [List.map_nil, List.append_nil] at h
      | _ => exact .call hnone rfl modifiers
  | cons branch branches ih =>
    by_cases he : e.isObjectCall = true
    · rw [mergePoint_of_isObjectCall he]
      obtain ⟨members, modifiers, rfl⟩ : ∃ members modifiers, e = call (.object members) modifiers := by
        cases e with
        | identifier name => cases he
        | call base modifiers => cases base <;> simp_all [isObjectCall, Base.isObject]
      exact .object hnone members modifiers (branch :: branches)
    · rw [mergePoint, if_neg he]
      exact (ih branch).cons (by simpa using he)

/-- **What parts come to is the merge point with its merges**, and nothing else. -/
theorem merged_iff {e : Expr} {branches : List Expr} {base : Base Expr} {modifiers : List (Modifier Expr)} :
    Merged (e :: branches) base modifiers ↔ base = (mergePoint e branches).1.base ∧
      modifiers = (mergePoint e branches).1.modifiers ++
        (mergePoint e branches).2.map (Modifier.ofExpr "merge") := by
  constructor
  · intro h
    generalize hparts : e :: branches = parts at h
    cases h with
    | object replaced members modifiers after =>
      rw [mergePoint_of_append replaced hparts, mergePoint_of_isObjectCall rfl]
      exact ⟨rfl, rfl⟩
    | call replaced hbase modifiers =>
      rw [mergePoint_of_append replaced hparts]
      exact ⟨rfl, (List.append_nil _).symm⟩
    | identifier replaced name =>
      rw [mergePoint_of_append replaced hparts]
      exact ⟨rfl, rfl⟩
  · rintro ⟨rfl, rfl⟩
    exact merged_mergePoint e branches

end Expr

/-- **`allOf` in closed form.** The expression of a body whose kind is not raw has the base and the modifiers that its
start and the expressions of its branches come to, and behind those the modifiers of the body's own format, constraints,
default and mode, in this order. -/
theorem Schema.build_allOf {b : Body Schema} (h : ∀ expression, b.kind ≠ .raw expression) (mode : NullableMode)
    (required : Bool) : ∃ base modifiers,
      Expr.Merged (b.start mode :: b.allOf.map (build mode true)) base modifiers ∧
      (inline b).build mode required = .call base (modifiers ++
        (b.formatModifiers ++ b.constraints ++ b.defaultModifiers ++ mode.modifiers required)) := by
  refine ⟨_, _, Expr.merged_iff.2 ⟨rfl, rfl⟩, ?_⟩
  rw [build_inline_eq_chain h, List.append_assoc]
  rfl

/-- A text, a reference, an object with a default, and behind it a text and a reference. -/
def passport : Body Schema where
  type := some (.one "string")
  format := some "date-time"
  default := some .null
  allOf := [.reference "#/components/schemas/Note",
    .inline { type := some (.one "object"), default := some (.object []) },
    .inline { type := some (.one "string") },
    .reference "#/components/schemas/Stamp"]

/-- The object keeps its default and takes in what comes after it; the body's own modifiers stand at the end. -/
theorem build_allOf_passport : (∀ expression, passport.kind ≠ .raw expression) ∧
    (Schema.inline passport).build .nullish false = .call (.object [])
      [.ofLiteral "default" (.object []), .ofExpr "merge" (.ofBase .string), .ofExpr "merge" (.identifier "schemaStamp"),
        ⟨"datetime", []⟩, .ofLiteral "default" .null, ⟨"nullish", []⟩] := by
  have h : ∀ expression, passport.kind ≠ .raw expression := fun _ => Kind.noConfusion
  refine ⟨h, ?_⟩
  obtain ⟨base, modifiers, hmerged, hbuild⟩ := Schema.build_allOf h .nullish false
  obtain ⟨rfl, rfl⟩ := Expr.merged_iff.1 hmerged
  exact hbuild

end ApiValidators
