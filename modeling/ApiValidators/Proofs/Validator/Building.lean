import ApiValidators.Proofs.References.Flat
import ApiValidators.Proofs.Validator.Parts
import ApiValidators.Validator.Builder

/-!
# How an expression is built

One level of building a schema, told without the recursion: a body has a start (`Body.start`), and `allOf` chooses among
the start and its branches the one that takes in all later ones (`Body.mergePoint`). The expression of the body is that
one with merges and with the body's own modifiers called on it (`build_inline_eq_chain`). What holds of each such
expression, given that it holds of the branches, holds at every depth (`build_all`).
-/

namespace ApiValidators

/-! ## Chains -/

namespace Expr

@[simp] theorem base_chain (e : Expr) (more : List (Modifier Expr)) : (e.chain more).base = e.base := rfl

@[simp] theorem modifiers_chain (e : Expr) (more : List (Modifier Expr)) :
    (e.chain more).modifiers = e.modifiers ++ more := rfl

@[simp] theorem chain_chain (e : Expr) (more last : List (Modifier Expr)) :
    (e.chain more).chain last = e.chain (more ++ last) := by
  simp [chain, base, modifiers]

theorem inner_chain (e : Expr) (more : List (Modifier Expr)) :
    (e.chain more).inner = e.inner ++ more.flatMap Modifier.inner := by
  simp [inner]

@[simp] theorem isObjectCall_chain (e : Expr) (more : List (Modifier Expr)) :
    (e.chain more).isObjectCall = e.isObjectCall := by
  cases e <;> rfl

/-! ## Merging -/

/-- Of an expression and its branches the first that is an object, and the branches after it, which it takes in; where
there is no object, the last one, which takes in nothing. -/
def mergePoint : Expr → List Expr → Expr × List Expr
  | e, [] => (e, [])
  | e, branch :: branches => if e.isObjectCall then (e, branch :: branches) else mergePoint branch branches

theorem mergePoint_of_isObjectCall {e : Expr} (h : e.isObjectCall = true) (branches : List Expr) :
    mergePoint e branches = (e, branches) := by
  cases branches <;> simp [mergePoint, h]

theorem foldl_absorb_of_isObjectCall {e : Expr} (h : e.isObjectCall = true) (branches : List Expr) :
    branches.foldl absorb e = e.chain (branches.map (Modifier.ofExpr "merge")) := by
  induction branches generalizing e with
  | nil =>
    cases e with
    | identifier name => cases h
    | call b ms => simp only [List.foldl_nil, List.map_nil, chain, base, modifiers, List.append_nil]
  | cons branch branches ih =>
    have hstep : e.absorb branch = e.chain [.ofExpr "merge" branch] := if_pos h
    rw [List.foldl_cons, hstep, ih (by simpa using h), chain_chain]
    rfl

/-- What is called on an expression that has absorbed its branches is called on the merge point, behind the merges. -/
theorem chain_foldl_absorb (e : Expr) (branches : List Expr) (more : List (Modifier Expr)) :
    (branches.foldl absorb e).chain more =
      (mergePoint e branches).1.chain ((mergePoint e branches).2.map (Modifier.ofExpr "merge") ++ more) := by
  induction branches generalizing e with
  | nil => rfl
  | cons branch branches ih =>
    by_cases he : e.isObjectCall = true
    · rw [mergePoint_of_isObjectCall he, foldl_absorb_of_isObjectCall he, chain_chain]
    · have hstep : e.absorb branch = branch := if_neg he
      rw [List.foldl_cons, hstep, ih, mergePoint, if_neg he]

theorem mergePoint_fst (e : Expr) (branches : List Expr) :
    (mergePoint e branches).1 = e ∨ (mergePoint e branches).1 ∈ branches := by
  induction branches generalizing e with
  | nil => exact .inl rfl
  | cons branch branches ih =>
    rw [mergePoint]
    split
    · exact .inl rfl
    · exact .inr (List.mem_cons.2 (ih branch))

theorem mergePoint_snd (e : Expr) (branches : List Expr) : (mergePoint e branches).2 <:+ branches := by
  induction branches generalizing e with
  | nil => exact List.suffix_rfl
  | cons branch branches ih =>
    rw [mergePoint]
    split
    · exact List.suffix_rfl
    · exact (ih branch).trans (List.suffix_cons branch branches)

end Expr

/-! ## One level of a schema -/

/-- The member that a property gives. -/
def Schema.member (mode : NullableMode) (required : Bool) (name : String) (s : Schema) : Member Expr :=
  ⟨name, s.build mode required, s.description.bind Remark.comment⟩

/-- The expression that a body starts from. -/
def Body.start (mode : NullableMode) (b : Body Schema) : Expr :=
  match b.kind with
  | .enum values => .ofBase (.enum (values.map Json.label))
  | .union => .ofBase (.union ((b.anyOf ++ b.oneOf).map (Schema.build mode true)))
  | .raw expression => .identifier expression
  | .array => .ofBase (.array ((b.items.map (Schema.build mode true)).getD (.ofBase .unknown)))
  | .object => .ofBase (.object (b.properties.map fun (name, s) => s.member mode (b.requires name) name))
  | .number => .ofBase .number
  | .string => .ofBase .string
  | .boolean => .ofBase .boolean
  | .null => .ofBase .null
  | .unknown => .ofBase .unknown

/-- The expression that takes in the branches of `allOf`, and those it takes in. -/
def Body.mergePoint (mode : NullableMode) (b : Body Schema) : Expr × List Expr :=
  (b.start mode).mergePoint (b.allOf.map (Schema.build mode true))

namespace Schema

variable {mode : NullableMode}

theorem buildEach_eq (ss : List Schema) : buildEach mode ss = ss.map (build mode true) := by
  induction ss with
  | nil => rfl
  | cons s ss ih => rw [buildEach, ih, List.map_cons]

theorem buildMembers_eq (own : Keywords) (properties : List (String × Schema)) :
    buildMembers mode own properties = properties.map fun (name, s) => s.member mode (own.requires name) name := by
  induction properties with
  | nil => rfl
  | cons e es ih =>
    obtain ⟨name, s⟩ := e
    rw [buildMembers, ih]
    rfl

theorem build_inline (required : Bool) (b : Body Schema) :
    (inline b).build mode required =
      b.toKeywords.finish mode required (b.start mode) (b.allOf.map (build mode true)) := by
  obtain ⟨own, items, properties, allOf, anyOf, oneOf, extras⟩ := b
  have hitem : buildItem mode items = (items.map (build mode true)).getD (.ofBase .unknown) := by cases items <;> rfl
  simp only [build, buildBody, buildEach_eq, buildMembers_eq, hitem, ← List.map_append]
  rfl

end Schema

section

variable {mode : NullableMode}

/-- Only a raw expression is no chain of calls. -/
theorem Body.isCall_start {b : Body Schema} (h : ∀ expression, b.kind ≠ .raw expression) :
    (b.start mode).isCall = true := by
  unfold start
  split <;> first | rfl | exact absurd ‹_› (h _)

theorem Body.modifiers_start (b : Body Schema) : (b.start mode).modifiers = [] := by
  unfold start
  split <;> rfl

theorem Body.isObjectCall_start (b : Body Schema) : (b.start mode).isObjectCall = true ↔ b.kind = .object := by
  unfold start
  split <;> simp_all [Expr.isObjectCall, Expr.ofBase, Base.isObject]

theorem Kind.ofTypeName_ne_raw (name : Option String) (expression : String) :
    Kind.ofTypeName name ≠ .raw expression := by
  unfold ofTypeName
  split <;> exact Kind.noConfusion

theorem Body.raw_description_of_kind {b : Body Schema} {expression : String} (h : b.kind = .raw expression) :
    b.description.bind Remark.raw = some expression := by
  unfold kind at h
  split at h
  · cases h
  · split at h
    · cases h
    · split at h
      · next hraw =>
        cases h
        exact hraw
      · exact absurd h (Kind.ofTypeName_ne_raw _ _)

/-- Where a body starts from a name, that is the raw expression in its description. -/
theorem Body.raw_description_of_start {b : Body Schema} {name : String} (h : (b.start mode).base = .named name) :
    b.description.bind Remark.raw = some name := by
  refine raw_description_of_kind ?_
  unfold start at h
  split at h <;> simp_all [Expr.ofBase, Expr.base]

/-- What stands inside the start of a body is built from a schema below it, or stands for items that are missing. -/
theorem Body.mem_inner_start {b : Body Schema} {x : Expr} (h : x ∈ (b.start mode).inner) :
    x = .ofBase .unknown ∨ ∃ s ∈ b.below, ∃ required, x = s.build mode required := by
  have hbelow := Body.forall_below (P := fun s => s ∈ b.below) (b := b).1 fun _ hs => hs
  obtain ⟨_, hany, hone, hitems, _, hproperties⟩ := hbelow
  unfold start at h
  split at h
  case h_2 =>
    have hx : x ∈ (b.anyOf ++ b.oneOf).map (Schema.build mode true) := by
      simpa [Expr.ofBase, Expr.inner, Expr.base, Expr.modifiers, Base.inner] using h
    obtain ⟨s, hs, rfl⟩ := List.mem_map.1 hx
    exact .inr ⟨s, (List.mem_append.1 hs).elim (hany s) (hone s), true, rfl⟩
  case h_4 =>
    have hx : x = (b.items.map (Schema.build mode true)).getD (.ofBase .unknown) := by
      simpa [Expr.ofBase, Expr.inner, Expr.base, Expr.modifiers, Base.inner] using h
    cases hi : b.items with
    | none => exact .inl (by simpa [hi] using hx)
    | some s => exact .inr ⟨s, hitems s hi, true, by simpa [hi] using hx⟩
  case h_5 =>
    have hx : x ∈ b.properties.map fun e => e.2.build mode (b.requires e.1) := by
      simpa [Expr.ofBase, Expr.inner, Expr.base, Expr.modifiers, Base.inner, Schema.member, Function.comp_def] using h
    obtain ⟨e, he, rfl⟩ := List.mem_map.1 hx
    exact .inr ⟨e.2, hproperties e he, _, rfl⟩
  all_goals cases h

theorem Keywords.inner_ownModifiers (k : Keywords) (required : Bool) :
    (k.ownModifiers mode required).flatMap Modifier.inner = [] := by
  rw [List.flatMap_eq_nil_iff]
  intro m hm
  simp only [ownModifiers, List.mem_append] at hm
  rcases hm with ((hm | hm) | hm) | hm
  · obtain ⟨name, -, rfl⟩ := List.mem_map.1 hm
    rfl
  · obtain ⟨c, -, hm⟩ := List.mem_flatMap.1 hm
    obtain ⟨limit, -, rfl⟩ := List.mem_map.1 hm
    rfl
  · obtain ⟨v, -, rfl⟩ := List.mem_map.1 hm
    rfl
  · unfold NullableMode.modifiers at hm
    split at hm
    · cases hm
    · cases List.mem_singleton.1 hm
      rfl

/-- **The expression of a body** whose kind is not raw: the merge point with the merges and the body's own modifiers. -/
theorem Schema.build_inline_eq_chain {b : Body Schema} (h : ∀ expression, b.kind ≠ .raw expression) (required : Bool) :
    (inline b).build mode required =
      (b.mergePoint mode).1.chain ((b.mergePoint mode).2.map (Modifier.ofExpr "merge") ++
        b.ownModifiers mode required) := by
  rw [build_inline, Keywords.finish, if_pos (Body.isCall_start h), Expr.chain_foldl_absorb]
  rfl

theorem Schema.build_inline_of_raw {b : Body Schema} {expression : String} (h : b.kind = .raw expression)
    (required : Bool) : (inline b).build mode required = .identifier expression := by
  have hstart : b.start mode = .identifier expression := by rw [Body.start, h]
  rw [build_inline, hstart]
  rfl

/-! ## Every depth -/

/-- What stands inside the expression of a body stands inside its start, is the expression of a branch of `allOf`, or
stands inside such an expression. -/
theorem Schema.mem_inner_build {b : Body Schema} {required : Bool} {x : Expr}
    (h : x ∈ ((inline b).build mode required).inner) :
    x ∈ (b.start mode).inner ∨ ∃ t ∈ b.allOf, x = t.build mode true ∨ x ∈ (t.build mode true).inner := by
  rcases exists_or_forall_not fun expression => b.kind = .raw expression with ⟨expression, hraw⟩ | hraw
  · rw [build_inline_of_raw hraw] at h
    cases h
  · rw [build_inline_eq_chain hraw, Expr.inner_chain, List.flatMap_append,
      Keywords.inner_ownModifiers, List.append_nil, List.mem_append] at h
    rcases h with h | h
    · -- the chain starts from the body's start or from a branch
      rcases (b.start mode).mergePoint_fst (b.allOf.map (build mode true)) with he | he
      · exact .inl (he ▸ h)
      · obtain ⟨t, ht, he⟩ := List.mem_map.1 he
        exact .inr ⟨t, ht, .inr (he ▸ h)⟩
    · -- a merge holds a branch
      obtain ⟨m, hm, hx⟩ := List.mem_flatMap.1 h
      obtain ⟨branch, hbranch, rfl⟩ := List.mem_map.1 hm
      cases List.mem_singleton.1 (hx : x ∈ [branch])
      have hmem := ((b.start mode).mergePoint_snd (b.allOf.map (build mode true))).subset hbranch
      obtain ⟨t, ht, rfl⟩ := List.mem_map.1 hmem
      exact .inr ⟨t, ht, .inl rfl⟩

/-- **What holds of the expression of each body, if it holds of those of its branches, holds at every depth.** -/
theorem Schema.build_all {Q : Expr → Prop} (hunknown : Q (.ofBase .unknown)) {s : Schema}
    (hreference : ∀ pointer, (reference pointer).Within s → Q (.identifier (Pointer.statementName pointer)))
    (hinline : ∀ b, (inline b).Within s → (∀ t ∈ b.allOf, Q (t.build mode true)) →
      ∀ required, Q ((inline b).build mode required)) (required : Bool) : (s.build mode required).All Q := by
  induction s using below_induction generalizing required with
  | reference pointer => exact .intro (hreference pointer .here) fun x hx => nomatch hx
  | inline b ih =>
    have hbelow : ∀ t ∈ b.below, ∀ required, (t.build mode required).All Q := fun t ht required =>
      ih t ht (fun p hp => hreference p (.inside ht hp)) (fun c hc => hinline c (.inside ht hc)) required
    have hbranch : ∀ t ∈ b.allOf, (t.build mode true).All Q := fun t ht =>
      hbelow t ((Body.forall_below (P := fun s => s ∈ b.below) (b := b).1 fun _ hs => hs).1 t ht) true
    refine .intro (hinline b .here (fun t ht => (hbranch t ht).here) required) fun x hx => ?_
    rcases mem_inner_build hx with hx | ⟨t, ht, rfl | hx⟩
    · rcases Body.mem_inner_start hx with rfl | ⟨t, ht, required, rfl⟩
      · exact .intro hunknown fun x hx => nomatch hx
      · exact hbelow t ht required
    · exact hbranch t ht
    · exact (hbranch t ht).inner x hx

end

end ApiValidators
