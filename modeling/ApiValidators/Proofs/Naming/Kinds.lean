import ApiValidators.Module.Statement
import ApiValidators.Naming.Basic
import ApiValidators.Proofs.Naming.Claims

/-!
# The kinds of names

Every exported name of a section starts with the section's kind, whatever the source name holds
(`kind_isPrefix_exportName`), and no name starts with two kinds (`kind_unique`). Hence claims of one section never look
at names of another (`claimAll_congr`).
-/

namespace ApiValidators

open Naming Text

/-- Whether a name starts with the kind of a section. -/
def Section.Owns (part : Section) (name : String) : Prop := part.kind.toList <+: name.toList

theorem Section.owns_numbered {part : Section} {name : String} (h : part.Owns name) (k : Nat) :
    part.Owns (numbered name k) := by
  unfold Section.Owns numbered
  rw [String.toList_append]
  exact h.trans (List.prefix_append ..)

theorem Section.kind_unique {part other : Section} {name : String} (h : part.Owns name) (ho : other.Owns name) :
    part = other := by
  obtain ⟨t, ht⟩ := h
  obtain ⟨u, hu⟩ := ho
  -- the kinds differ in their first letters
  have hhead : (part.kind.toList ++ t).head? = (other.kind.toList ++ u).head? := by rw [ht, hu]
  revert hhead
  cases part <;> cases other <;> simp [Section.kind]

/-! ## Exported names -/

namespace Naming

/-- Letters that keep their place and shape in a name: they neither separate words nor open one, are lower case, and may
stand anywhere in a bare name. -/
def isPlain (c : Char) : Bool :=
  !isSeparator c && !c.isUpper && c != 'Σ' && decide (c.toNat < 0x80) && c.toLower == c && opensName c && inName c

theorem isPlain_iff {c : Char} : isPlain c = true ↔ isSeparator c = false ∧ c.isUpper = false ∧ c ≠ 'Σ' ∧
    c.toNat < 0x80 ∧ c.toLower = c ∧ opensName c = true ∧ inName c = true := by
  simp [isPlain, and_assoc]

theorem kind_plain (part : Section) : ∀ c ∈ part.kind.toList, isPlain c = true := by
  rw [← List.all_eq_true]
  cases part <;> decide

theorem wordsAfter_plain (rest : List Char) : ∀ {kind : List Char} {before : Option Bool}, before ≠ some true →
    (∀ c ∈ kind, isPlain c = true) → wordsAfter before (kind ++ '_' :: rest) = kind :: wordsAfter (some true) rest
  | [], before, hb, _ => by
    have hs : isSeparator '_' = true := by decide
    simp [wordsAfter, hs, hb]
  | c :: kind, before, hb, hk => by
    obtain ⟨hc, hk⟩ := List.forall_mem_cons.1 hk
    obtain ⟨hs, hu, _⟩ := isPlain_iff.1 hc
    have ih := wordsAfter_plain rest (by simp : some false ≠ some true) hk
    simp [wordsAfter, hs, hu, ih, pushFront]

theorem lowerFrom_plain : ∀ {kind : List Char} (before : List Char), (∀ c ∈ kind, isPlain c = true) →
    lowerFrom before kind = kind
  | [], _, _ => rfl
  | c :: kind, before, hk => by
    obtain ⟨hc, hk⟩ := List.forall_mem_cons.1 hk
    obtain ⟨_, _, hsigma, hascii, hlow, _⟩ := isPlain_iff.1 hc
    rw [lowerFrom, if_neg hsigma, lowerOf_ascii hascii, hlow, lowerFrom_plain _ hk]
    rfl

theorem camelCase_kind (part : Section) (source : List Char) :
    ∃ tail, camelCase (part.kind.toList ++ '_' :: source) = part.kind.toList ++ tail := by
  unfold camelCase words
  rw [wordsAfter_plain source (by simp) (kind_plain part)]
  exact ⟨_, congrArg (· ++ _) (lowerFrom_plain [] (kind_plain part))⟩

theorem bareName_plain (tail : List Char) : ∀ {kind : List Char}, kind ≠ [] → (∀ c ∈ kind, isPlain c = true) →
    kind <+: bareName (kind ++ tail)
  | [], hne, _ => absurd rfl hne
  | c :: kind, _, hk => by
    obtain ⟨hc, hk⟩ := List.forall_mem_cons.1 hk
    obtain ⟨_, _, _, _, _, hopens, _⟩ := isPlain_iff.1 hc
    have hmap : kind.map (fun c => if inName c then c else '_') = kind.map id :=
      List.map_congr_left fun c hc => if_pos (isPlain_iff.1 (hk c hc)).2.2.2.2.2.2
    rw [List.map_id] at hmap
    simp only [List.cons_append, bareName, hopens, if_true, List.map_append, hmap]
    exact List.prefix_append (c :: kind) _

theorem kind_notReserved (part : Section) : ∀ w ∈ reserved, ¬ part.kind.toList <+: w.toList := by
  intro w hw hp
  have hall : reserved.all fun w => !part.kind.toList.isPrefixOf w.toList := by cases part <;> decide
  have hnot := List.all_eq_true.1 hall w hw
  simp only [List.isPrefixOf_iff_prefix.2 hp, Bool.not_true, Bool.false_eq_true] at hnot

theorem notReserved_of_owns {part : Section} {name : String} (h : part.Owns name) : name ∉ reserved :=
  fun hm => kind_notReserved part name hm h

theorem legalName_kind (part : Section) (tail : List Char) :
    part.kind.toList <+: legalName (part.kind.toList ++ tail) := by
  have hbare : part.kind.toList <+: bareName (part.kind.toList ++ tail) :=
    bareName_plain tail (by cases part <;> decide) (kind_plain part)
  have hr : reserved.contains (String.ofList (bareName (part.kind.toList ++ tail))) = false := by
    rw [Bool.eq_false_iff, Ne, List.contains_iff_mem]
    intro hm
    exact kind_notReserved part _ hm (by simpa using hbare)
  simp only [legalName, hr]
  exact hbare

/-- **Every exported name starts with its kind**, whatever the source name holds. -/
theorem kind_isPrefix_exportName (part : Section) (source : String) : part.Owns (exportName part.kind source) := by
  obtain ⟨tail, ht⟩ := camelCase_kind part source.toList
  unfold Section.Owns exportName
  rw [ht, String.toList_ofList]
  exact legalName_kind part tail

/-! ## Claims within a section -/

variable {part : Section}

theorem owns_claimAll {names : List String} (taken : List String) (h : ∀ name ∈ names, part.Owns name) :
    ∀ c ∈ claimAll taken names, part.Owns c.name :=
  forall_claimAll (P := part.Owns) (fun _ k hname => part.owns_numbered hname k) taken h

/-- **Claims of a section look only at the section's own names**: taken names of other sections make no difference. -/
theorem claimAll_congr : ∀ {names : List String} {taken taken' : List String}, (∀ name ∈ names, part.Owns name) →
    (∀ s, part.Owns s → (s ∈ taken ↔ s ∈ taken')) → claimAll taken names = claimAll taken' names
  | [], _, _, _, _ => rfl
  | name :: names, taken, taken', h, ht => by
    obtain ⟨hname, hnames⟩ := List.forall_mem_cons.1 h
    have hc : claim taken name = claim taken' name :=
      claim_congr (ht name hname) fun k => ht _ (part.owns_numbered hname k)
    have ht' : ∀ s, part.Owns s → (s ∈ (claim taken' name).name :: taken ↔ s ∈ (claim taken' name).name :: taken') := by
      intro s hs
      rw [List.mem_cons, List.mem_cons, ht s hs]
    rw [claimAll, claimAll, hc, claimAll_congr hnames ht']

end Naming

end ApiValidators
