import ApiValidators.Naming.Basic
import Mathlib.Tactic.Common

/-!
# Camel case in one pass

Camel case cuts a text into words and puts these together again. On ASCII text it comes to a rule for each character by
itself (`written`): separators go, the first character is written small, and any other one large if it is a capital or
stands behind a separator. The rule is carried through the cutting by `recased`, which knows of the text before it just
what the cutting knows. It follows that camel case loses no character but separators, and that a text in camel case
stays as it is but for its first character (`camelCase_exact`).
-/

namespace ApiValidators.Naming

open Text

/-- What is written for a character at a place of a text: nothing for a separator; the large form of a capital, and of
what stands behind a separator; else the small form, and that for the first character in any case. -/
def written (text : List Char) (i : Nat) (c : Char) : Option Char :=
  if isSeparator c then none
  else if 0 < i ∧ (text[i - 1]?.any isSeparator ∨ c.isUpper) then some c.toUpper
  else some c.toLower

/-- The characters of a text without its separators, each written by what stands before it: a separator, another
character or nothing (`none`). -/
def recased (separatorBefore : Option Bool) : List Char → List Char
  | [] => []
  | c :: rest =>
    if isSeparator c then recased (some true) rest
    else
      (if separatorBefore = some true ∨ (separatorBefore = some false ∧ c.isUpper) then c.toUpper else c.toLower) ::
        recased (some false) rest

/-! ## ASCII letters -/

theorem ascii_forall (P : Char → Prop) (h : ∀ n < 0x80, P (Char.ofNat n)) {c : Char} (hc : c.toNat < 0x80) : P c := by
  have hofNat := h c.toNat hc
  rwa [Char.ofNat_toNat] at hofNat

theorem toUpper_ascii {c : Char} : c.toNat < 0x80 → c.toUpper.toNat < 0x80 ∧ isSeparator c.toUpper = isSeparator c :=
  ascii_forall (fun c => c.toUpper.toNat < 0x80 ∧ isSeparator c.toUpper = isSeparator c) (by decide)

theorem toLower_ascii {c : Char} : c.toNat < 0x80 → c.toLower.toNat < 0x80 ∧ isSeparator c.toLower = isSeparator c :=
  ascii_forall (fun c => c.toLower.toNat < 0x80 ∧ isSeparator c.toLower = isSeparator c) (by decide)

theorem toLower_toUpper_ascii {c : Char} : c.toNat < 0x80 → c.toUpper.toLower = c.toLower :=
  ascii_forall (fun c => c.toUpper.toLower = c.toLower) (by decide)

theorem toLower_toLower_ascii {c : Char} : c.toNat < 0x80 → c.toLower.toLower = c.toLower :=
  ascii_forall (fun c => c.toLower.toLower = c.toLower) (by decide)

/-- Capitals are large already, and all other characters small. -/
theorem recase_ascii {c : Char} : c.toNat < 0x80 → if c.isUpper then c.toUpper = c else c.toLower = c :=
  ascii_forall (fun c => if c.isUpper then c.toUpper = c else c.toLower = c) (by decide)

theorem lowerFrom_ascii {text : List Char} (before : List Char) (h : ∀ c ∈ text, c.toNat < 0x80) :
    lowerFrom before text = text.map Char.toLower := by
  induction text generalizing before with
  | nil => rfl
  | cons c rest ih =>
    obtain ⟨hc, hrest⟩ := List.forall_mem_cons.1 h
    have hsigma : c ≠ 'Σ' := by
      rintro rfl
      exact absurd hc (by decide)
    rw [lowerFrom, if_neg hsigma, lowerOf_ascii hc, ih _ hrest]
    rfl

/-! ## From words to single characters -/

/-- The words of what stands behind a separator, another character or nothing, put together: the first one opens a word
behind a separator, and carries the open one on elsewhere. -/
def joined (separatorBefore : Option Bool) : List (List Char) → List Char
  | [] => []
  | word :: later =>
    (if separatorBefore = some true then capitalize word else lower word) ++ later.flatMap capitalize

theorem camelCase_eq_joined (text : List Char) : camelCase text = joined none (words text) := by
  unfold camelCase
  cases words text <;> rfl

/-- There is a first word, if only an empty one, and all words are made of characters of the text. -/
theorem exists_wordsAfter (separatorBefore : Option Bool) (text : List Char) :
    ∃ word later, wordsAfter separatorBefore text = word :: later ∧ ∀ w ∈ word :: later, ∀ c ∈ w, c ∈ text := by
  induction text generalizing separatorBefore with
  | nil => exact ⟨[], [], rfl, by simp⟩
  | cons c rest ih =>
    obtain ⟨word, later, hwords, hmem⟩ := ih (some (isSeparator c))
    have hrest : ∀ w ∈ word :: later, ∀ d ∈ w, d ∈ c :: rest := fun w hw d hd => List.mem_cons_of_mem c (hmem w hw d hd)
    rw [wordsAfter]
    split
    · next hc =>
      rw [hc] at hwords
      rw [hwords]
      split
      · exact ⟨word, later, rfl, hrest⟩
      · exact ⟨[], word :: later, rfl, by simpa using hrest⟩
    · next hc =>
      rw [Bool.eq_false_iff.2 hc] at hwords
      have hpush : ∀ w ∈ (c :: word) :: later, ∀ d ∈ w, d ∈ c :: rest := by
        simp only [List.forall_mem_cons] at hrest ⊢
        exact ⟨⟨List.mem_cons_self, hrest.1⟩, hrest.2⟩
      simp only [hwords, pushFront]
      split
      · exact ⟨[], (c :: word) :: later, rfl, by simpa using hpush⟩
      · exact ⟨c :: word, later, rfl, hpush⟩

/-- **Cutting into words and putting them together is writing character by character.** -/
theorem joined_wordsAfter {text : List Char} (h : ∀ c ∈ text, c.toNat < 0x80) (separatorBefore : Option Bool) :
    joined separatorBefore (wordsAfter separatorBefore text) = recased separatorBefore text := by
  induction text generalizing separatorBefore with
  | nil => simp [wordsAfter, joined, recased, capitalize, lower, lowerFrom]
  | cons c rest ih =>
    obtain ⟨hc, hrest⟩ := List.forall_mem_cons.1 h
    obtain ⟨word, later, hwords, hmem⟩ := exists_wordsAfter (some (isSeparator c)) rest
    have hempty : lower [] = [] := rfl
    have ih := ih hrest (some (isSeparator c))
    rw [hwords] at ih
    by_cases hsep : isSeparator c = true
    · -- the next word is opened, unless an earlier separator of the run has opened it
      rw [hsep] at hwords ih
      by_cases hbefore : separatorBefore = some true
      · simp [wordsAfter, recased, hsep, hbefore, hwords, ih]
      · simpa [wordsAfter, recased, hsep, hbefore, hwords, joined, hempty] using ih
    · have hword : ∀ d ∈ c :: word, d.toNat < 0x80 :=
        List.forall_mem_cons.2 ⟨hc, fun d hd => hrest d (hmem word List.mem_cons_self d hd)⟩
      have hsmall : lower (c :: word) = c.toLower :: lower word := by
        rw [lower, lower, lowerFrom_ascii _ hword, lowerFrom_ascii _ (List.forall_mem_cons.1 hword).2, List.map_cons]
      have hlarge : capitalize (c :: word) = c.toUpper :: lower word := by
        rw [capitalize, upperOf_ascii hc]
        rfl
      rw [Bool.eq_false_iff.2 hsep] at hwords ih
      simp only [joined, Option.some.injEq, Bool.false_eq_true, if_false] at ih
      rcases separatorBefore with _ | _ | _
      · -- the first character of the text
        simp [wordsAfter, recased, joined, pushFront, hsep, hwords, hsmall, ih]
      · by_cases hupper : c.isUpper = true
        · simp [wordsAfter, recased, joined, pushFront, hsep, hwords, hupper, hlarge, hempty, ih]
        · simp [wordsAfter, recased, joined, pushFront, hsep, hwords, hupper, hsmall, ih]
      · simp [wordsAfter, recased, joined, pushFront, hsep, hwords, hlarge, ih]

theorem camelCase_eq_recased {text : List Char} (h : ∀ c ∈ text, c.toNat < 0x80) :
    camelCase text = recased none text :=
  (camelCase_eq_joined text).trans (joined_wordsAfter h none)

/-! ## From what stands before to places -/

theorem recased_eq_filterMap (before text : List Char) :
    recased (before.getLast?.map isSeparator) text =
      (text.zipIdx before.length).filterMap fun (c, i) => written (before ++ text) i c := by
  induction text generalizing before with
  | nil => rfl
  | cons c rest ih =>
    have ih := ih (before ++ [c])
    simp only [List.getLast?_append, List.getLast?_singleton, Option.some_or, Option.map_some, List.length_append,
      List.length_singleton, List.append_assoc, List.singleton_append] at ih
    rw [List.zipIdx_cons, List.filterMap_cons, ← ih, recased]
    rcases List.eq_nil_or_concat before with rfl | ⟨earlier, b, rfl⟩
    · by_cases hsep : isSeparator c = true <;> simp [written, hsep]
    · by_cases hsep : isSeparator c = true
      · simp [written, hsep]
      · have hplace : 0 < (earlier.concat b).length := by simp
        cases hbefore : isSeparator b <;> by_cases hupper : c.isUpper = true <;>
          simp [written, hsep, hbefore, hupper]

/-! ## What stays -/

/-- Camel case changes the size of characters and drops separators, and does nothing else. -/
theorem map_toLower_recased {text : List Char} (h : ∀ c ∈ text, c.toNat < 0x80) (separatorBefore : Option Bool) :
    (recased separatorBefore text).map Char.toLower = (text.filter fun c => !isSeparator c).map Char.toLower := by
  induction text generalizing separatorBefore with
  | nil => rfl
  | cons c rest ih =>
    obtain ⟨hc, hrest⟩ := List.forall_mem_cons.1 h
    by_cases hsep : isSeparator c = true
    · rw [recased, if_pos hsep, ih hrest, List.filter_cons_of_neg (by simp [hsep])]
    · rw [recased, if_neg hsep, List.map_cons, ih hrest, List.filter_cons_of_pos (by simp [hsep]), List.map_cons]
      split
      · rw [toLower_toUpper_ascii hc]
      · rw [toLower_toLower_ascii hc]

/-- What is written is ASCII text without separators. -/
theorem of_mem_recased {text : List Char} (h : ∀ c ∈ text, c.toNat < 0x80) (separatorBefore : Option Bool) :
    ∀ d ∈ recased separatorBefore text, d.toNat < 0x80 ∧ isSeparator d = false := by
  induction text generalizing separatorBefore with
  | nil => simp [recased]
  | cons c rest ih =>
    obtain ⟨hc, hrest⟩ := List.forall_mem_cons.1 h
    obtain ⟨hupper, husep⟩ := toUpper_ascii hc
    obtain ⟨hlower, hlsep⟩ := toLower_ascii hc
    rw [recased]
    split
    · exact ih hrest _
    · next hsep =>
      refine List.forall_mem_cons.2 ⟨?_, ih hrest _⟩
      split
      · exact ⟨hupper, husep.trans (Bool.eq_false_iff.2 hsep)⟩
      · exact ⟨hlower, hlsep.trans (Bool.eq_false_iff.2 hsep)⟩

theorem recased_of_no_separator {text : List Char} (h : ∀ c ∈ text, c.toNat < 0x80 ∧ isSeparator c = false) :
    recased (some false) text = text := by
  induction text with
  | nil => rfl
  | cons c rest ih =>
    obtain ⟨⟨hc, hsep⟩, hrest⟩ := List.forall_mem_cons.1 h
    have hsame := recase_ascii hc
    rw [recased, ih hrest]
    by_cases hupper : c.isUpper = true
    · rw [if_pos hupper] at hsame
      simp [hsep, hupper, hsame]
    · rw [if_neg hupper] at hsame
      simp [hsep, hupper, hsame]

theorem camelCase_camelCase {text : List Char} (h : ∀ c ∈ text, c.toNat < 0x80)
    (hfirst : text.head?.any isSeparator = false) : camelCase (camelCase text) = camelCase text := by
  have hmem : ∀ d ∈ recased none text, d.toNat < 0x80 ∧ isSeparator d = false := of_mem_recased h none
  rw [camelCase_eq_recased h, camelCase_eq_recased fun d hd => (hmem d hd).1]
  cases text with
  | nil => rfl
  | cons c rest =>
    obtain ⟨hc, hrest⟩ := List.forall_mem_cons.1 h
    obtain ⟨-, hsep⟩ := toLower_ascii hc
    have hfirst : isSeparator c = false := by simpa using hfirst
    have hlater : ∀ d ∈ recased (some false) rest, d.toNat < 0x80 ∧ isSeparator d = false := of_mem_recased hrest _
    have hwritten : recased none (c :: rest) = c.toLower :: recased (some false) rest := by simp [recased, hfirst]
    rw [hwritten, recased, recased_of_no_separator hlater]
    simp [hsep, hfirst, toLower_toLower_ascii hc]

/-- **Camel case in one pass.** ASCII text in camel case has for each character what is written for it at its place. So
camel case drops separators and changes the size of characters, but loses, doubles and moves no other character; no
separator is left; and where the text does not start with a separator, a second pass changes nothing. -/
theorem camelCase_exact {text : List Char} (h : ∀ c ∈ text, c.toNat < 0x80) :
    camelCase text = (text.zipIdx.filterMap fun (c, i) => written text i c) ∧
    (camelCase text).map Char.toLower = (text.filter fun c => !isSeparator c).map Char.toLower ∧
    (∀ c ∈ camelCase text, isSeparator c = false) ∧
    (text.head?.any isSeparator = false → camelCase (camelCase text) = camelCase text) := by
  refine ⟨?_, ?_, ?_, camelCase_camelCase h⟩
  · rw [camelCase_eq_recased h]
    exact recased_eq_filterMap [] text
  · rw [camelCase_eq_recased h]
    exact map_toLower_recased h none
  · rw [camelCase_eq_recased h]
    exact fun c hc => (of_mem_recased h none c hc).2

/-- Runs of separators, capitals in a row, and a digit behind a separator. -/
theorem camelCase_exact_orderID :
    (∀ c ∈ "order_-ID 2nd".toList, c.toNat < 0x80) ∧ camelCase "order_-ID 2nd".toList = "orderID2nd".toList ∧
      camelCase (camelCase "order_-ID 2nd".toList) = "orderID2nd".toList := by
  have h : ∀ c ∈ "order_-ID 2nd".toList, c.toNat < 0x80 := by simp
  obtain ⟨heq, -, -, hidem⟩ := camelCase_exact h
  have hwritten : camelCase "order_-ID 2nd".toList = "orderID2nd".toList := by
    rw [heq]
    decide
  exact ⟨h, hwritten, (hidem (by decide)).trans hwritten⟩

end ApiValidators.Naming
