import ApiValidators.Naming.Basic
import Mathlib.Tactic.Common

/-!
# Legal names are legal

`legalName` makes a bare name of any text (`isBareName_legalName`), and a number behind a bare name leaves it one
(`isBareName_numbered`). It projects texts onto legal names: a legal name is what it leaves as it is
(`legalName_projection`). Behind this is that no reserved word starts with an underscore, so that the one put in front
of a reserved word leads to no other.
-/

namespace ApiValidators.Naming

/-! ## Bare names -/

theorem inName_of_opensName {c : Char} (h : opensName c = true) : inName c = true := by
  simp only [opensName, inName, Char.isAlphanum, Bool.or_eq_true] at h ⊢
  tauto

theorem inName_of_isDigit {c : Char} (h : c.isDigit = true) : inName c = true := by
  simp [inName, Char.isAlphanum, h]

theorem isBareName_iff {s : List Char} :
    isBareName s = true ↔ ∃ c t, s = c :: t ∧ opensName c = true ∧ ∀ x ∈ t, inName x = true := by
  cases s <;> simp [isBareName]

theorem inName_of_isBareName {s : List Char} (h : isBareName s = true) : ∀ c ∈ s, inName c = true := by
  obtain ⟨c, t, rfl, hc, ht⟩ := isBareName_iff.1 h
  exact List.forall_mem_cons.2 ⟨inName_of_opensName hc, ht⟩

theorem isBareName_cons {c : Char} {s : List Char} (hc : opensName c = true) (hs : ∀ x ∈ s, inName x = true) :
    isBareName (c :: s) = true := isBareName_iff.2 ⟨c, s, rfl, hc, hs⟩

theorem isBareName_append {s t : List Char} (hs : isBareName s = true) (ht : ∀ x ∈ t, inName x = true) :
    isBareName (s ++ t) = true := by
  obtain ⟨c, s, rfl, hc, hin⟩ := isBareName_iff.1 hs
  exact isBareName_cons hc (List.forall_mem_append.2 ⟨hin, ht⟩)

/-! ## Names made bare -/

theorem isBareName_bareName (text : List Char) : isBareName (bareName text) = true := by
  cases text with
  | nil => decide
  | cons c rest =>
    have htail : ∀ x ∈ rest.map (fun c => if inName c then c else '_'), inName x = true := by
      intro x hx
      obtain ⟨y, -, rfl⟩ := List.mem_map.1 hx
      by_cases hy : inName y = true
      · rwa [if_pos hy]
      · rw [if_neg hy]
        decide
    rw [bareName]
    split
    · next hopens => exact isBareName_cons hopens htail
    · split
      · next hdigit => exact isBareName_cons (by decide) (List.forall_mem_cons.2 ⟨inName_of_isDigit hdigit, htail⟩)
      · exact isBareName_cons (by decide) htail

/-- **Any text is made a bare name.** -/
theorem isBareName_legalName (text : List Char) : isBareName (legalName text) = true := by
  simp only [legalName]
  split
  · exact isBareName_cons (by decide) (inName_of_isBareName (isBareName_bareName text))
  · exact isBareName_bareName text

theorem isBareName_exportName (kind source : String) : isBareName (exportName kind source).toList = true := by
  rw [exportName, String.toList_ofList]
  exact isBareName_legalName _

/-! ## Names that are left as they are -/

/-- A name that can be bound as it stands: a bare one that is not reserved. -/
def IsLegal (name : List Char) : Prop := isBareName name = true ∧ String.ofList name ∉ reserved

instance : DecidablePred IsLegal := fun name =>
  inferInstanceAs (Decidable (isBareName name = true ∧ String.ofList name ∉ reserved))

theorem not_reserved_of_underscore (rest : List Char) : String.ofList ('_' :: rest) ∉ reserved := by
  have hfirst : ∀ word ∈ reserved, word.toList.head? ≠ some '_' := by decide
  intro hmem
  exact hfirst _ hmem (by simp)

theorem bareName_of_isBareName {text : List Char} (h : isBareName text = true) : bareName text = text := by
  obtain ⟨c, rest, rfl, hc, hrest⟩ := isBareName_iff.1 h
  have hkept : rest.map (fun c => if inName c then c else '_') = rest.map id :=
    List.map_congr_left fun c hc => if_pos (hrest c hc)
  rw [bareName, hkept, List.map_id]
  simp [hc]

theorem legalName_of_reserved {text : List Char} (h : String.ofList (bareName text) ∈ reserved) :
    legalName text = '_' :: bareName text := by simp [legalName, h]

theorem legalName_of_not_reserved {text : List Char} (h : String.ofList (bareName text) ∉ reserved) :
    legalName text = bareName text := by simp [legalName, h]

theorem isLegal_legalName (text : List Char) : IsLegal (legalName text) := by
  refine ⟨isBareName_legalName text, ?_⟩
  by_cases h : String.ofList (bareName text) ∈ reserved
  · rw [legalName_of_reserved h]
    exact not_reserved_of_underscore _
  · rwa [legalName_of_not_reserved h]

theorem legalName_of_isLegal {text : List Char} (h : IsLegal text) : legalName text = text := by
  have hbare := bareName_of_isBareName h.1
  rw [legalName_of_not_reserved (hbare.symm ▸ h.2), hbare]

/-- Making a name bare puts nothing in, except for one underscore in front. -/
theorem length_bareName (text : List Char) : (bareName text).length = text.length ∨
    ∃ rest, bareName text = '_' :: rest ∧ rest.length = text.length := by
  cases text with
  | nil => exact .inr ⟨[], rfl, rfl⟩
  | cons c rest =>
    rw [bareName]
    split
    · exact .inl (by simp)
    · split
      · exact .inr ⟨_, rfl, by simp⟩
      · exact .inl (by simp)

theorem length_legalName (text : List Char) :
    (legalName text).length = text.length ∨ (legalName text).length = text.length + 1 := by
  by_cases h : String.ofList (bareName text) ∈ reserved
  · rw [legalName_of_reserved h, List.length_cons]
    rcases length_bareName text with hlength | ⟨rest, hrest, -⟩
    · exact .inr (by rw [hlength])
    · -- what has got an underscore in front is not reserved
      rw [hrest] at h
      exact absurd h (not_reserved_of_underscore rest)
  · rw [legalName_of_not_reserved h]
    rcases length_bareName text with hlength | ⟨rest, hrest, hlength⟩
    · exact .inl hlength
    · exact .inr (by rw [hrest, List.length_cons, hlength])

/-- **Any text is projected onto a legal name.** What is made of a text is a bare name that is not reserved; the text is
left as it is exactly if it is such a name itself, so that a second time changes nothing; and what is made of it is at
most one character longer than the text, and never shorter. -/
theorem legalName_projection (text : List Char) :
    IsLegal (legalName text) ∧ (legalName text = text ↔ IsLegal text) ∧
    legalName (legalName text) = legalName text ∧
    ((legalName text).length = text.length ∨ (legalName text).length = text.length + 1) := by
  refine ⟨isLegal_legalName text, ⟨fun h => ?_, legalName_of_isLegal⟩, ?_, length_legalName text⟩
  · rw [← h]
    exact isLegal_legalName text
  · exact legalName_of_isLegal (isLegal_legalName text)

example : ¬ IsLegal "class".toList ∧ IsLegal "_class".toList ∧ legalName "class".toList = "_class".toList := by decide

/-! ## Numbered names -/

theorem isBareName_numbered {name : String} (h : isBareName name.toList = true) (n : Nat) :
    isBareName (numbered name n).toList = true := by
  rw [numbered, String.toList_append]
  refine isBareName_append h fun c hc => inName_of_isDigit ?_
  exact Nat.isDigit_of_mem_toDigits (by decide) (by decide) (Nat.toList_repr ▸ hc)

end ApiValidators.Naming
