import ApiValidators.Proofs.Validator.Building
import Mathlib.Data.List.Flatten

/-!
# The order of modifiers

Modifiers come in phases: merges, then a format, the constraints, a default, and at last the mark of a value that is not
required (`Phased`). A body adds its own modifiers in this order, behind the merges. What can break the order is only
what they are added to: where `allOf` puts the finished expression of a branch in place of the body's start, merges and
own modifiers come behind the modifiers of that branch. `Body.InOrder` says when that does no harm, and an expression is
phased exactly then (`build_phased`).
-/

namespace ApiValidators

variable {mode : NullableMode}

/-! ## Phases -/

def formatNames : List String :=
  ["int", "datetime", "url", "date", "time", "duration", "ip", "email", "uuid", "cuid", "cuid2"]

/-- The modifiers that a constraint keyword can stand for, in their order. -/
def Constraint.names : Constraint → List String
  | minItems | minLength => ["min"]
  | maxItems | maxLength => ["max"]
  | minimum => ["gte", "gt"]
  | maximum => ["lte", "lt"]

/-- The phases behind the merges, with a format: each name stands where it can stand at most once. -/
def NullableMode.phases (mode : NullableMode) (format : String) : List String :=
  format :: (Constraint.all.flatMap Constraint.names ++ ["default", mode.name])

theorem NullableMode.phases_eq (mode : NullableMode) (format : String) :
    mode.phases format = (format :: (Constraint.all.flatMap Constraint.names ++ ["default"])) ++ [mode.name] := rfl

/-- Names of modifiers in the order of the phases. Any of them can be missing. -/
def Phased (mode : NullableMode) (names : List String) : Prop :=
  ∃ merges rest, names = merges ++ rest ∧ (∀ n ∈ merges, n = "merge") ∧
    ∃ format ∈ formatNames, rest.Sublist (mode.phases format)

theorem Phased.nil : Phased mode [] :=
  ⟨[], [], rfl, by simp, "int", by decide, List.nil_sublist _⟩

theorem Phased.sublist {names fewer : List String} (h : Phased mode names) (hsub : fewer.Sublist names) :
    Phased mode fewer := by
  obtain ⟨merges, rest, rfl, hmerges, format, hformat, hrest⟩ := h
  obtain ⟨merges', rest', rfl, hmerges', hrest'⟩ := List.sublist_append_iff.1 hsub
  exact ⟨merges', rest', rfl, fun n hn => hmerges n (hmerges'.subset hn), format, hformat, hrest'.trans hrest⟩

/-- Nothing but merges stands before a merge. -/
theorem Phased.before_merge {before after : List String} (h : Phased mode (before ++ "merge" :: after)) :
    ∀ n ∈ before, n = "merge" := by
  obtain ⟨merges, rest, heq, hmerges, format, hformat, hrest⟩ := h
  have hnone : "merge" ∉ rest := by
    intro hmem
    have hphases : ∀ format ∈ formatNames, "merge" ∉ mode.phases format := by cases mode <;> decide
    exact hphases format hformat (hrest.subset hmem)
  intro n hn
  rcases List.append_eq_append_iff.1 heq with ⟨more, rfl, -⟩ | ⟨more, rfl, rfl⟩
  · exact hmerges n (List.mem_append_left _ hn)
  · exact absurd (List.mem_append_right more List.mem_cons_self) hnone

theorem Phased.marked {names : List String} (h : Phased mode names) (hmark : mode.name ∉ names) :
    Phased mode (names ++ [mode.name]) := by
  obtain ⟨merges, rest, rfl, hmerges, format, hformat, hrest⟩ := h
  refine ⟨merges, rest ++ [mode.name], List.append_assoc .., hmerges, format, hformat, ?_⟩
  rw [mode.phases_eq] at hrest ⊢
  obtain ⟨first, last, rfl, hfirst, hlast⟩ := List.sublist_append_iff.1 hrest
  have hnone : last = [] := by
    rcases List.sublist_singleton.1 hlast with rfl | rfl
    · rfl
    · simp at hmark
  rw [hnone, List.append_nil]
  exact hfirst.append_right _

/-! ## Own modifiers -/

theorem mem_formatNames {format name : String} (h : formatModifier? format = some name) : name ∈ formatNames := by
  unfold formatModifier? at h
  split_ifs at h with _ _ _ hmem <;> cases h
  · decide
  · decide
  · decide
  · exact List.mem_append_right ["int", "datetime", "url"] (List.contains_iff_mem.1 hmem)

theorem Constraint.sublist_bounds (strict inclusive : String) (bound : Option Number)
    (exclusive : Option ExclusiveBound) :
    ((bounds strict inclusive bound exclusive).map Prod.fst).Sublist [inclusive, strict] := by
  unfold bounds
  split <;> cases bound <;> simp

theorem Constraint.sublist_modifiers (k : Keywords) (c : Constraint) :
    ((c.modifiers k).map Modifier.name).Sublist c.names := by
  have hone : ∀ (name : String) (limit : Option Number),
      ((limit.toList.map fun n => (name, n)).map Prod.fst).Sublist [name] := by
    intro name limit
    cases limit <;> simp
  have hlimits : ((c.limits k).map Prod.fst).Sublist c.names := by
    cases c
    · exact hone "min" k.minItems
    · exact hone "max" k.maxItems
    · exact hone "min" k.minLength
    · exact hone "max" k.maxLength
    · exact sublist_bounds "gt" "gte" k.minimum k.exclusiveMinimum
    · exact sublist_bounds "lt" "lte" k.maximum k.exclusiveMaximum
  rwa [modifiers, List.map_map]

/-- **The modifiers that a body adds are in the order of the phases.** -/
theorem Keywords.sublist_ownModifiers (mode : NullableMode) (k : Keywords) (required : Bool) :
    ∃ format ∈ formatNames, ((k.ownModifiers mode required).map Modifier.name).Sublist (mode.phases format) := by
  obtain ⟨format, hformat, hfirst⟩ : ∃ format ∈ formatNames,
      (k.formatModifiers.map Modifier.name).Sublist [format] := by
    unfold formatModifiers
    cases hf : k.format.bind formatModifier? with
    | none => exact ⟨"int", by decide, List.nil_sublist _⟩
    | some name =>
      obtain ⟨format, -, hname⟩ := Option.bind_eq_some_iff.1 hf
      exact ⟨name, mem_formatNames hname, .refl _⟩
  have hconstraints : (k.constraints.map Modifier.name).Sublist (Constraint.all.flatMap Constraint.names) := by
    rw [constraints, List.map_flatMap]
    exact List.Sublist.flatMap_right _ fun c _ => c.sublist_modifiers k
  have hdefault : (k.defaultModifiers.map Modifier.name).Sublist ["default"] := by
    unfold defaultModifiers
    cases k.default <;> simp [Modifier.ofLiteral]
  have hmark : ((mode.modifiers required).map Modifier.name).Sublist [mode.name] := by
    cases required <;> simp [NullableMode.modifiers]
  refine ⟨format, hformat, ?_⟩
  rw [ownModifiers, List.map_append, List.map_append, List.map_append, List.append_assoc, List.append_assoc]
  exact hfirst.append (hconstraints.append (hdefault.append hmark))

theorem Keywords.phased_ownModifiers (k : Keywords) (required : Bool) {merges : List String}
    (hmerges : ∀ n ∈ merges, n = "merge") :
    Phased mode (merges ++ (k.ownModifiers mode required).map Modifier.name) :=
  ⟨merges, _, rfl, hmerges, k.sublist_ownModifiers mode required⟩

/-! ## Expressions of bodies -/

/-- The modifiers of a body's expression: those of what takes in the branches, the merges, and the body's own. -/
theorem Schema.modifierNames_build {b : Body Schema} (h : ∀ expression, b.kind ≠ .raw expression) (required : Bool) :
    ((inline b).build mode required).modifierNames = (b.mergePoint mode).1.modifierNames ++
      ((b.mergePoint mode).2.map fun _ => "merge") ++ (b.ownModifiers mode required).map Modifier.name := by
  rw [build_inline_eq_chain h, Expr.modifierNames, Expr.modifiers_chain, List.map_append, List.map_append,
    List.map_map, ← List.append_assoc]
  rfl

/-- What a body adds when it is not required is the mark. -/
theorem Keywords.ownModifiers_false (mode : NullableMode) (k : Keywords) :
    k.ownModifiers mode false = k.ownModifiers mode true ++ [⟨mode.name, []⟩] := by
  simp [ownModifiers, NullableMode.modifiers]

theorem Keywords.mark_not_mem_ownModifiers (mode : NullableMode) (k : Keywords) :
    mode.name ∉ (k.ownModifiers mode true).map Modifier.name := by
  obtain ⟨format, hformat, hsub⟩ := k.sublist_ownModifiers mode false
  rw [ownModifiers_false, List.map_append, List.map_singleton, NullableMode.phases_eq,
    List.append_sublist_append_right] at hsub
  have hphases : ∀ format ∈ formatNames,
      mode.name ∉ format :: (Constraint.all.flatMap Constraint.names ++ ["default"]) := by cases mode <;> decide
  exact fun hmem => hphases format hformat (hsub.subset hmem)

/-- A modifier that no branch has is not called on what takes in the branches. -/
theorem Body.not_mem_mergePoint {b : Body Schema} {name : String}
    (h : ∀ t ∈ b.allOf, name ∉ (t.build mode true).modifierNames) :
    name ∉ (b.mergePoint mode).1.modifierNames := by
  rcases (b.start mode).mergePoint_fst (b.allOf.map (Schema.build mode true)) with he | he
  · rw [mergePoint, he, Expr.modifierNames, Body.modifiers_start]
    exact List.not_mem_nil
  · obtain ⟨t, ht, he⟩ := List.mem_map.1 he
    rw [mergePoint, ← he]
    exact h t ht

theorem Schema.mark_not_mem_build (mode : NullableMode) (s : Schema) :
    mode.name ∉ (s.build mode true).modifierNames := by
  induction s using below_induction with
  | reference pointer => exact List.not_mem_nil
  | inline b ih =>
    rcases exists_or_forall_not fun expression => b.kind = .raw expression with ⟨expression, hraw⟩ | hraw
    · rw [build_inline_of_raw hraw]
      exact List.not_mem_nil
    · have hbranches : ∀ t ∈ b.allOf, mode.name ∉ (t.build mode true).modifierNames := (Body.forall_below.1 ih).1
      have hmerge : mode.name ≠ "merge" := by cases mode <;> decide
      rw [modifierNames_build hraw, List.mem_append, List.mem_append, List.mem_map]
      rintro ((hmem | ⟨-, -, hmem⟩) | hmem)
      · exact Body.not_mem_mergePoint hbranches hmem
      · exact hmerge hmem.symm
      · exact b.mark_not_mem_ownModifiers mode hmem

/-- The merges and the own modifiers of a body do not come behind modifiers that stand for later phases. -/
inductive Body.InOrder (mode : NullableMode) (b : Body Schema) : Prop where
  /-- A raw expression has no modifiers. -/
  | raw {expression : String} : b.kind = .raw expression → InOrder mode b
  /-- What takes in the branches has no modifiers but merges. -/
  | fresh : (∀ n ∈ (b.mergePoint mode).1.modifierNames, n = "merge") → InOrder mode b
  /-- What takes the place of the start is the last branch, and the own modifiers carry its phases on. -/
  | finished : (b.mergePoint mode).2 = [] →
    Phased mode ((b.mergePoint mode).1.modifierNames ++ (b.ownModifiers mode true).map Modifier.name) → InOrder mode b

/-- **A body's expression is phased exactly if the body is in order.** -/
theorem Body.phased_build_iff (mode : NullableMode) (b : Body Schema) (required : Bool) :
    Phased mode ((Schema.inline b).build mode required).modifierNames ↔ b.InOrder mode := by
  rcases exists_or_forall_not fun expression => b.kind = .raw expression with ⟨expression, hraw⟩ | hraw
  · rw [Schema.build_inline_of_raw hraw]
    exact ⟨fun _ => .raw hraw, fun _ => .nil⟩
  · rw [Schema.modifierNames_build hraw]
    constructor
    · intro h
      cases hmerged : (b.mergePoint mode).2 with
      | nil =>
        rw [hmerged, List.map_nil, List.append_nil] at h
        -- the order must hold without the mark, which only a value that is not required has
        have hown : ((b.ownModifiers mode true).map Modifier.name).Sublist
            ((b.ownModifiers mode required).map Modifier.name) := by
          cases required with
          | false => simp [b.ownModifiers_false mode]
          | true => exact .refl _
        exact .finished hmerged (h.sublist (hown.append_left _))
      | cons branch branches =>
        rw [hmerged, List.map_cons, List.append_assoc, List.cons_append] at h
        exact .fresh h.before_merge
    · rintro (⟨hkind⟩ | hfresh | ⟨hmerged, hphased⟩)
      · exact absurd hkind (hraw _)
      · refine b.phased_ownModifiers required (List.forall_mem_append.2 ⟨hfresh, ?_⟩)
        exact List.forall_mem_map.2 fun _ _ => rfl
      · rw [hmerged, List.map_nil, List.append_nil]
        cases required with
        | true => exact hphased
        | false =>
          rw [b.ownModifiers_false mode, List.map_append, List.map_singleton, ← List.append_assoc]
          refine hphased.marked fun hmem => ?_
          rcases List.mem_append.1 hmem with hmem | hmem
          · exact Body.not_mem_mergePoint (fun t _ => t.mark_not_mem_build mode) hmem
          · exact b.mark_not_mem_ownModifiers mode hmem

theorem Body.inOrder_of_object {b : Body Schema} (h : b.kind = .object) : b.InOrder mode := by
  have hstart : b.mergePoint mode = (b.start mode, b.allOf.map (Schema.build mode true)) :=
    Expr.mergePoint_of_isObjectCall (b.isObjectCall_start.2 h) _
  refine .fresh ?_
  rw [hstart, Expr.modifierNames, Body.modifiers_start]
  simp

theorem Body.inOrder_of_allOf_nil {b : Body Schema} (h : b.allOf = []) : b.InOrder mode := by
  have hstart : b.mergePoint mode = (b.start mode, []) := by rw [mergePoint, h, List.map_nil, Expr.mergePoint]
  refine .fresh ?_
  rw [hstart, Expr.modifierNames, Body.modifiers_start]
  simp

/-! ## Every depth -/

/-- **The order of modifiers.** The expression of a body is phased exactly if the body is in order. At every depth of
what is built from a schema, all expressions are phased but those of bodies in the schema that are not in order. Objects
and bodies without `allOf` are in order. -/
theorem Schema.build_phased (mode : NullableMode) :
    (∀ b required, Phased mode ((inline b).build mode required).modifierNames ↔ b.InOrder mode) ∧
    (∀ (s : Schema) required, (s.build mode required).All fun e => Phased mode e.modifierNames ∨
      ∃ b, (inline b).Within s ∧ ¬ b.InOrder mode ∧ ∃ required, e = (inline b).build mode required) ∧
    ∀ b : Body Schema, b.kind = .object ∨ b.allOf = [] → b.InOrder mode := by
  refine ⟨Body.phased_build_iff mode, fun s required => ?_, fun b h => ?_⟩
  · refine Schema.build_all (.inl .nil) (fun _ _ => .inl .nil) (fun b hb _ required => ?_) required
    by_cases horder : b.InOrder mode
    · exact .inl ((Body.phased_build_iff mode b required).2 horder)
    · exact .inr ⟨b, hb, horder, required, rfl⟩
  · exact h.elim Body.inOrder_of_object Body.inOrder_of_allOf_nil

/-- An object that takes in a branch and has a default. -/
def mergedObject : Body Schema where
  type := some (.one "object")
  allOf := [.inline { type := some (.one "object") }]
  default := some (.object [])

/-- The merge comes before the default. -/
theorem build_phased_mergedObject :
    ((Schema.inline mergedObject).build .nullish false).modifierNames = ["merge", "default", "nullish"] ∧
      Phased .nullish ((Schema.inline mergedObject).build .nullish false).modifierNames := by
  obtain ⟨hbody, -, horder⟩ := Schema.build_phased .nullish
  exact ⟨rfl, (hbody mergedObject false).2 (horder mergedObject (.inl rfl))⟩

/-- Two branches, the first of which has a default. -/
def finishedBranch : Schema := .inline {
  allOf := [.inline { type := some (.one "object"), default := some (.object []) },
    .inline { type := some (.one "object") }] }

/-- The merge comes behind the default of the first branch. -/
theorem finishedBranch_not_phased :
    ¬ (finishedBranch.build .nullish true).All fun e => Phased .nullish e.modifierNames := by
  intro h
  have hnames : (finishedBranch.build .nullish true).modifierNames = ["default"] ++ "merge" :: [] := rfl
  have hphased := h.here
  rw [hnames] at hphased
  exact absurd (hphased.before_merge "default" List.mem_cons_self) (by decide)

end ApiValidators
