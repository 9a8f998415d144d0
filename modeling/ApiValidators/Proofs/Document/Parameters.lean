import ApiValidators.Document.Basic
import Mathlib.Tactic.Common

/-!
# Shared and own parameters together

Own entries override shared ones one after the other. Each passes by the entries that are not alike and takes the place
of the first one that is (`override_cons_of_not_alike`, `override_cons_of_alike`). What this does to the entries of one
name and location: the last own one stands in front, and of the shared ones the first is gone (`filter_entriesOf`).
Nothing is added to the entries there were (`mem_entriesOf`).
-/

namespace ApiValidators

namespace ParameterEntry

/-- Whether two entries are both given in place and have one name and location. -/
def alike : ParameterEntry → ParameterEntry → Bool
  | reference _, _ => false
  | inline p, e => e.clashes p

variable {own e f : ParameterEntry} {entries : List ParameterEntry} {p : Parameter}

theorem alike_comm (e f : ParameterEntry) : e.alike f = f.alike e := by
  cases e <;> cases f <;> simp only [alike, clashes]
  exact congrArg₂ (· && ·) BEq.comm BEq.comm

theorem alike_congr (h : e.alike f = true) : f.alike = e.alike := by
  cases e with
  | reference pointer => cases h
  | inline p =>
    cases f with
    | reference pointer => cases h
    | inline q =>
      obtain ⟨hname, hlocation⟩ : q.name = p.name ∧ q.location = p.location := by simpa [alike, clashes] using h
      funext g
      cases g <;> simp [alike, clashes, hname, hlocation]

/-! ## One own entry -/

theorem override_nil (own : ParameterEntry) : own.override [] = [own] := by
  cases own <;> rfl

theorem override_cons_of_alike (h : e.alike own = true) (es : List ParameterEntry) :
    own.override (e :: es) = own :: es := by
  rw [alike_comm] at h
  cases own with
  | reference pointer => cases h
  | inline p =>
    have hclash : e.clashes p = true := h
    rw [override, List.any_cons, hclash, Bool.true_or, if_pos rfl, override.replaceFirst, if_pos hclash]

theorem override_cons_of_not_alike (h : e.alike own = false) (es : List ParameterEntry) :
    own.override (e :: es) = e :: own.override es := by
  rw [alike_comm] at h
  cases own with
  | reference pointer => rfl
  | inline p =>
    have hclash : e.clashes p = false := h
    rw [override, override, List.any_cons, hclash, Bool.false_or, override.replaceFirst, hclash]
    split <;> rfl

theorem mem_of_mem_override (h : e ∈ own.override entries) : e = own ∨ e ∈ entries := by
  induction entries with
  | nil =>
    rw [override_nil] at h
    exact .inl (List.mem_singleton.1 h)
  | cons f fs ih =>
    cases hf : f.alike own with
    | true =>
      rw [override_cons_of_alike hf] at h
      exact (List.mem_cons.1 h).imp_right (List.mem_cons_of_mem _)
    | false =>
      rw [override_cons_of_not_alike hf] at h
      rcases List.mem_cons.1 h with rfl | h
      · exact .inr List.mem_cons_self
      · exact (ih h).imp_right (List.mem_cons_of_mem _)

/-- What one own entry does to the entries of one name and location. -/
theorem filter_override :
    (own.override entries).filter (clashes p) =
      if own.clashes p then own :: (entries.filter (clashes p)).tail else entries.filter (clashes p) := by
  have hclashes : ∀ f : ParameterEntry, f.clashes p = f.alike (inline p) := fun f => alike_comm (inline p) f
  induction entries with
  | nil =>
    rw [override_nil, List.filter_cons]
    rfl
  | cons e es ih =>
    cases h : e.alike own with
    | true =>
      have hsame : e.clashes p = own.clashes p := by rw [hclashes, hclashes, alike_congr h]
      rw [override_cons_of_alike h, List.filter_cons, List.filter_cons, hsame]
      split <;> rfl
    | false =>
      rw [override_cons_of_not_alike h, List.filter_cons, List.filter_cons, ih]
      by_cases hown : own.clashes p = true
      · -- the entry that is passed by has another name or location
        have hother : e.clashes p = false := by
          rw [hclashes, alike_comm, ← alike_congr (e := inline p) hown, alike_comm, h]
        rw [hother, if_neg Bool.false_ne_true, if_neg Bool.false_ne_true]
      · rw [if_neg hown, if_neg hown]

end ParameterEntry

/-! ## All own entries -/

namespace PathItem

open ParameterEntry

variable {item : PathItem} {operation : Operation} {e : ParameterEntry}

theorem mem_entriesOf (h : e ∈ item.entriesOf operation) : e ∈ item.parameters ∨ e ∈ operation.parameters := by
  unfold entriesOf at h
  generalize item.parameters = shared, operation.parameters = owns at h ⊢
  induction owns generalizing shared with
  | nil => exact .inl h
  | cons own owns ih =>
    rcases ih _ h with h | h
    · rcases mem_of_mem_override h with rfl | h
      · exact .inr List.mem_cons_self
      · exact .inl h
    · exact .inr (List.mem_cons_of_mem _ h)

/-- **The entries of one name and location**: the shared ones, or behind the last own one all shared ones but the
first. -/
theorem filter_entriesOf (item : PathItem) (operation : Operation) (p : Parameter) :
    (item.entriesOf operation).filter (clashes p) =
      match (operation.parameters.filter (clashes p)).getLast? with
      | none => item.parameters.filter (clashes p)
      | some last => last :: (item.parameters.filter (clashes p)).tail := by
  unfold entriesOf
  generalize item.parameters = shared
  induction operation.parameters generalizing shared with
  | nil => rfl
  | cons own owns ih =>
    rw [List.foldl_cons, ih, filter_override]
    by_cases hown : own.clashes p = true
    · -- the first shared one went with the first own one, and each later own one takes the place of the one before
      rw [if_pos hown, List.filter_cons_of_pos hown, List.getLast?_cons]
      cases (owns.filter (clashes p)).getLast? <;> rfl
    · rw [if_neg hown, List.filter_cons_of_neg hown]

end PathItem

end ApiValidators
