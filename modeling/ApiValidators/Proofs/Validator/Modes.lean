import ApiValidators.Proofs.Validator.Phases

/-!
# Modes

How a value that is not required is marked decides the name of that one modifier and nothing else: an expression built
in one mode is the one built in the other, with the marks renamed (`Schema.rename_build`). Neither mode uses the mark of
the other (`Schema.foreign_mark_build`).

The mark comes once, at the end of what is built for the value as a required one (`Schema.build_marked_once`). A branch
of `allOf` that takes the place of a body's start brings no mark along, however deep it stands, as branches are built as
required. Bare names take no modifiers and so are not marked.
-/

namespace ApiValidators

/-! ## Renaming modifiers -/

namespace Expr

mutual

/-- The expression with `name` in the place of `old` wherever that is a modifier without arguments, at every depth. -/
def rename (old name : String) : Expr → Expr
  | identifier n => identifier n
  | call base modifiers => call (renameBase old name base) (renameModifiers old name modifiers)

def renameBase (old name : String) : Base Expr → Base Expr
  | .named n => .named n
  | .string => .string
  | .number => .number
  | .boolean => .boolean
  | .null => .null
  | .unknown => .unknown
  | .enum labels => .enum labels
  | .array item => .array (rename old name item)
  | .object members => .object (renameMembers old name members)
  | .union branches => .union (renameEach old name branches)

def renameModifiers (old name : String) : List (Modifier Expr) → List (Modifier Expr)
  | [] => []
  | ⟨n, arguments⟩ :: modifiers =>
    ⟨if n = old && arguments.isEmpty then name else n, renameArguments old name arguments⟩ ::
      renameModifiers old name modifiers

def renameArguments (old name : String) : List (Argument Expr) → List (Argument Expr)
  | [] => []
  | .literal l :: rest => .literal l :: renameArguments old name rest
  | .expr e :: rest => .expr (rename old name e) :: renameArguments old name rest

def renameEach (old name : String) : List Expr → List Expr
  | [] => []
  | e :: es => rename old name e :: renameEach old name es

def renameMembers (old name : String) : List (Member Expr) → List (Member Expr)
  | [] => []
  | ⟨n, value, comment⟩ :: members => ⟨n, rename old name value, comment⟩ :: renameMembers old name members

end

variable {old name : String}

theorem renameEach_eq (es : List Expr) : renameEach old name es = es.map (rename old name) := by
  induction es with
  | nil => rfl
  | cons e es ih => rw [renameEach, ih, List.map_cons]

theorem renameMembers_eq (members : List (Member Expr)) :
    renameMembers old name members = members.map fun m => ⟨m.name, m.value.rename old name, m.comment⟩ := by
  induction members with
  | nil => rfl
  | cons m members ih => rw [renameMembers, ih, List.map_cons]

theorem renameModifiers_append (first second : List (Modifier Expr)) :
    renameModifiers old name (first ++ second) = renameModifiers old name first ++ renameModifiers old name second := by
  induction first with
  | nil => rfl
  | cons m first ih => rw [List.cons_append, renameModifiers, renameModifiers, ih, List.cons_append]

/-- A modifier that takes literals stays, and so does one of another name that takes nothing. -/
theorem renameModifiers_of_fixed {modifiers : List (Modifier Expr)}
    (h : ∀ m ∈ modifiers, (m.name ≠ old ∧ m.arguments = []) ∨ ∃ l, m.arguments = [.literal l]) :
    renameModifiers old name modifiers = modifiers := by
  induction modifiers with
  | nil => rfl
  | cons m modifiers ih =>
    obtain ⟨hm, hrest⟩ := List.forall_mem_cons.1 h
    obtain ⟨n, arguments⟩ := m
    rw [renameModifiers, ih hrest]
    rcases hm with ⟨hname, harguments⟩ | ⟨l, harguments⟩
    · cases harguments
      have hkeep : ¬ n = old := hname
      simp [renameArguments, hkeep]
    · cases harguments
      simp [renameArguments]

theorem rename_ofBase (base : Base Expr) : (ofBase base).rename old name = ofBase (renameBase old name base) := rfl

theorem rename_chain (e : Expr) (more : List (Modifier Expr)) :
    (e.chain more).rename old name = (e.rename old name).chain (renameModifiers old name more) := by
  cases e with
  | identifier n => rfl
  | call base modifiers =>
    show call (renameBase old name base) (renameModifiers old name (modifiers ++ more)) = _
    rw [renameModifiers_append]
    rfl

@[simp] theorem isCall_rename (e : Expr) : (e.rename old name).isCall = e.isCall := by
  cases e <;> rfl

@[simp] theorem isObjectCall_rename (e : Expr) : (e.rename old name).isObjectCall = e.isObjectCall := by
  rcases e with n | ⟨base, modifiers⟩
  · rfl
  · cases base <;> rfl

theorem rename_absorb (e branch : Expr) :
    (e.absorb branch).rename old name = (e.rename old name).absorb (branch.rename old name) := by
  have hmerge : renameModifiers old name [.ofExpr "merge" branch] = [.ofExpr "merge" (branch.rename old name)] := by
    simp [renameModifiers, renameArguments, Modifier.ofExpr]
  unfold absorb
  rw [isObjectCall_rename]
  by_cases h : e.isObjectCall = true
  · rw [if_pos h, if_pos h, rename_chain, hmerge]
  · rw [if_neg h, if_neg h]

theorem rename_foldl_absorb (e : Expr) (branches : List Expr) :
    (branches.foldl absorb e).rename old name =
      (branches.map (rename old name)).foldl absorb (e.rename old name) := by
  induction branches generalizing e with
  | nil => rfl
  | cons branch branches ih => rw [List.foldl_cons, List.map_cons, List.foldl_cons, ih, rename_absorb]

end Expr

/-! ## Building in two modes -/

/-- The mark of the one mode renamed to that of the other. -/
def Expr.reword (e : Expr) : Expr := e.rename NullableMode.nullish.name NullableMode.optional.name

theorem Keywords.rename_ownModifiers (k : Keywords) (required : Bool) :
    Expr.renameModifiers NullableMode.nullish.name NullableMode.optional.name (k.ownModifiers .nullish required) =
      k.ownModifiers .optional required := by
  have hfixed : ∀ m ∈ k.formatModifiers ++ k.constraints ++ k.defaultModifiers,
      (m.name ≠ NullableMode.nullish.name ∧ m.arguments = []) ∨ ∃ l, m.arguments = [.literal l] := by
    intro m hm
    rcases List.mem_append.1 hm with hm | hm
    · rcases List.mem_append.1 hm with hm | hm
      · obtain ⟨n, hn, rfl⟩ := List.mem_map.1 hm
        obtain ⟨format, -, hformat⟩ := Option.bind_eq_some_iff.1 (Option.mem_toList.1 hn)
        have hnot : NullableMode.nullish.name ∉ formatNames := by decide
        exact .inl ⟨fun h => hnot (h ▸ mem_formatNames hformat), rfl⟩
      · obtain ⟨c, -, hm⟩ := List.mem_flatMap.1 hm
        obtain ⟨⟨n, limit⟩, -, rfl⟩ := List.mem_map.1 hm
        exact .inr ⟨_, rfl⟩
    · obtain ⟨v, -, rfl⟩ := List.mem_map.1 hm
      exact .inr ⟨_, rfl⟩
  have hmark : Expr.renameModifiers NullableMode.nullish.name NullableMode.optional.name
      (NullableMode.nullish.modifiers required) = NullableMode.optional.modifiers required := by
    cases required <;> rfl
  rw [ownModifiers, Expr.renameModifiers_append, Expr.renameModifiers_of_fixed hfixed, hmark]
  rfl

theorem Keywords.rename_finish (k : Keywords) (required : Bool) (start : Expr) (branches : List Expr) :
    (k.finish .nullish required start branches).reword =
      k.finish .optional required start.reword (branches.map Expr.reword) := by
  unfold finish Expr.reword
  rw [Expr.isCall_rename]
  by_cases h : start.isCall = true
  · rw [if_pos h, if_pos h, Expr.rename_chain, Expr.rename_foldl_absorb, rename_ownModifiers]
  · rw [if_neg h, if_neg h]

theorem Body.rename_start {b : Body Schema}
    (h : ∀ s ∈ b.below, ∀ required, (s.build .nullish required).reword = s.build .optional required) :
    (b.start .nullish).reword = b.start .optional := by
  obtain ⟨-, hany, hone, hitem, -, hmember⟩ := Body.forall_below.1 h
  have heach : ∀ ss : List Schema,
      (∀ s ∈ ss, ∀ required, (s.build .nullish required).reword = s.build .optional required) →
      (ss.map (Schema.build .nullish true)).map Expr.reword = ss.map (Schema.build .optional true) := by
    intro ss hss
    rw [List.map_map]
    exact List.map_congr_left fun s hs => hss s hs true
  unfold start Expr.reword
  cases b.kind with
  | union =>
    have hbranches := heach (b.anyOf ++ b.oneOf) (List.forall_mem_append.2 ⟨hany, hone⟩)
    simp only [Expr.rename_ofBase, Expr.renameBase, Expr.renameEach_eq]
    exact congrArg (fun es => Expr.ofBase (.union es)) hbranches
  | array =>
    simp only [Expr.rename_ofBase, Expr.renameBase]
    cases hi : b.items with
    | none => rfl
    | some s => exact congrArg (fun e => Expr.ofBase (.array e)) (hitem s hi true)
  | object =>
    have hmembers : (b.properties.map fun e => (e.2.member .nullish (b.requires e.1) e.1)).map
        (fun m => (⟨m.name, m.value.reword, m.comment⟩ : Member Expr)) =
        b.properties.map fun e => e.2.member .optional (b.requires e.1) e.1 := by
      rw [List.map_map]
      refine List.map_congr_left fun e he => ?_
      simp only [Function.comp, Schema.member, hmember e he]
    simp only [Expr.rename_ofBase, Expr.renameBase, Expr.renameMembers_eq]
    exact congrArg (fun ms => Expr.ofBase (.object ms)) hmembers
  | _ => rfl

/-- **The mode names the mark and decides nothing else**: what is built in the one mode is what is built in the other,
with the marks renamed. -/
theorem Schema.rename_build (s : Schema) (required : Bool) :
    (s.build .nullish required).reword = s.build .optional required := by
  induction s using below_induction generalizing required with
  | reference pointer => rfl
  | inline b ih =>
    have hbranches : (b.allOf.map (build .nullish true)).map Expr.reword = b.allOf.map (build .optional true) := by
      rw [List.map_map]
      exact List.map_congr_left fun s hs => (Body.forall_below.1 ih).1 s hs true
    rw [build_inline, build_inline, Keywords.rename_finish, Body.rename_start ih, hbranches]

/-! ## The mark of the other mode -/

theorem Keywords.foreign_mark_not_mem_ownModifiers {mode other : NullableMode} (h : other ≠ mode) (k : Keywords)
    (required : Bool) : other.name ∉ (k.ownModifiers mode required).map Modifier.name := by
  obtain ⟨format, hformat, hsub⟩ := k.sublist_ownModifiers mode required
  have hphases : ∀ format ∈ formatNames, other.name ∉ mode.phases format := by
    cases mode <;> cases other <;> first | exact absurd rfl h | decide
  exact fun hmem => hphases format hformat (hsub.subset hmem)

/-- **No expression has the mark of another mode**, at any depth. -/
theorem Schema.foreign_mark_build {mode other : NullableMode} (h : other ≠ mode) (s : Schema) (required : Bool) :
    (s.build mode required).All fun e => other.name ∉ e.modifierNames := by
  refine Schema.build_all List.not_mem_nil (fun _ _ => List.not_mem_nil) (fun b _ hbranches required => ?_) required
  rcases exists_or_forall_not fun expression => b.kind = .raw expression with ⟨expression, hraw⟩ | hraw
  · rw [build_inline_of_raw hraw]
    exact List.not_mem_nil
  · have hmerge : other.name ≠ "merge" := by cases other <;> decide
    rw [modifierNames_build hraw, List.mem_append, List.mem_append, List.mem_map]
    rintro ((hmem | ⟨-, -, hmem⟩) | hmem)
    · exact Body.not_mem_mergePoint hbranches hmem
    · exact hmerge hmem.symm
    · exact b.foreign_mark_not_mem_ownModifiers h required hmem

/-! ## The mark -/

/-- Schemas that are built as a bare name: references, and bodies whose description holds their expression. -/
inductive Schema.Verbatim : Schema → Prop where
  | reference (pointer : String) : Verbatim (reference pointer)
  | raw {b : Body Schema} {expression : String} : b.kind = .raw expression → Verbatim (inline b)

variable {mode : NullableMode}

theorem Schema.unmarked_build (s : Schema) (mark : NullableMode) : mark.name ∉ (s.build mode true).modifierNames := by
  by_cases h : mark = mode
  · subst h
    exact s.mark_not_mem_build mark
  · exact (s.foreign_mark_build h true).here

theorem Schema.Verbatim.build {s : Schema} (h : s.Verbatim) :
    ∃ name, ∀ required, s.build mode required = .identifier name := by
  cases h with
  | reference pointer => exact ⟨_, fun _ => rfl⟩
  | raw hraw => exact ⟨_, build_inline_of_raw hraw⟩

/-- Any other schema is built as a chain of calls, and is marked behind all of them. -/
theorem Schema.build_of_not_verbatim {s : Schema} (h : ¬ s.Verbatim) : ∃ base modifiers,
    s.build mode true = .call base modifiers ∧ s.build mode false = .call base (modifiers ++ [⟨mode.name, []⟩]) := by
  cases s with
  | reference pointer => exact absurd (.reference pointer) h
  | inline b =>
    have hkind : ∀ expression, b.kind ≠ .raw expression := fun expression hraw => h (.raw hraw)
    refine ⟨_, _, build_inline_eq_chain hkind true, ?_⟩
    rw [build_inline_eq_chain hkind false, b.ownModifiers_false mode, Expr.chain]
    simp only [List.append_assoc]

/-- **A value that is not required is marked exactly once, and at the end.** What is built for a required value has the
mark of no mode. Where it is not required, a bare name stays as it is, and a chain of calls is followed by the mark of
the mode, which takes no arguments. -/
theorem Schema.build_marked_once (mode : NullableMode) (s : Schema) :
    (∀ mark : NullableMode, mark.name ∉ (s.build mode true).modifierNames) ∧
    ((s.Verbatim ∧ ∃ name, s.build mode true = .identifier name ∧ s.build mode false = .identifier name) ∨
      (¬ s.Verbatim ∧ ∃ base modifiers, s.build mode true = .call base modifiers ∧
        s.build mode false = .call base (modifiers ++ [⟨mode.name, []⟩]))) := by
  refine ⟨s.unmarked_build, ?_⟩
  by_cases h : s.Verbatim
  · obtain ⟨name, hname⟩ : ∃ name, ∀ required, s.build mode required = .identifier name := h.build
    exact .inl ⟨h, name, hname true, hname false⟩
  · exact .inr ⟨h, Schema.build_of_not_verbatim h⟩

/-- A reference as the last branch becomes the base of a chain, behind which the mark stands. -/
example : (Schema.inline { allOf := [.inline {}, .reference "#/components/schemas/Pet"] }).build .optional false =
    .call (.named "schemaPet") [⟨"optional", []⟩] := rfl

end ApiValidators
