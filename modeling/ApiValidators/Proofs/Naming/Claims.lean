import ApiValidators.Naming.Basic
import Mathlib.Data.List.Nodup
import Mathlib.Data.List.Perm.Subperm
import Mathlib.Order.Bounds.Defs

/-!
# What a claim depends on

A claim looks at the taken names only to ask whether the name itself or the name with a number behind it is among them
(`claim_congr`). The bound on the numbers that are tried does not show: as many different texts as there are taken
names, and one more, cannot all be taken (`firstFree_of_length_lt`). A name that is taken gets the least number that makes
it new (`exists_claim_of_mem`). Hence names claimed in turn are all different, as long as there are fewer of them than
numbers (`nodup_claimAll`).
-/

namespace ApiValidators.Naming

theorem numbered_inj {name : String} {m n : Nat} (h : numbered name m = numbered name n) : m = n := by
  have hl := congrArg String.toList h
  simp only [numbered, String.toList_append, List.append_cancel_left_eq] at hl
  have hdigits : Nat.toDigits 10 m = Nat.toDigits 10 n := by rwa [← Nat.toList_repr, ← Nat.toList_repr]
  rw [← Nat.ofDigitChars_ten_toDigits (n := m), hdigits, Nat.ofDigitChars_ten_toDigits]

/-! ## The search for a free number -/

variable {taken taken' : List String} {name : String}

theorem firstFree_eq_none_iff : ∀ {tries n : Nat},
    firstFree taken name tries n = none ↔ ∀ k, n ≤ k → k < n + tries → numbered name k ∈ taken
  | 0, n => by
    simp only [firstFree, true_iff]
    intro k h1 h2
    omega
  | tries + 1, n => by
    have ih : firstFree taken name tries (n + 1) = none ↔
        ∀ k, n + 1 ≤ k → k < n + 1 + tries → numbered name k ∈ taken := firstFree_eq_none_iff
    by_cases hn : numbered name n ∈ taken
    · rw [firstFree, if_pos (by simpa using hn), ih]
      constructor
      · intro h k h1 h2
        rcases Nat.eq_or_lt_of_le h1 with rfl | h1
        · exact hn
        · exact h k h1 (by omega)
      · intro h k h1 h2
        exact h k (by omega) (by omega)
    · rw [firstFree, if_neg (by simpa using hn)]
      simp only [reduceCtorEq, false_iff]
      intro h
      exact hn (h n (Nat.le_refl n) (by omega))

/-- **More tries than taken names find a free number.** -/
theorem firstFree_of_length_lt {tries n : Nat} (h : taken.length < tries) : firstFree taken name tries n ≠ none := by
  intro hnone
  rw [firstFree_eq_none_iff] at hnone
  -- as many different texts as there are tries would all be taken
  have hnodup : ((List.range' n tries).map (numbered name)).Nodup :=
    (List.nodup_map_iff fun _ _ => numbered_inj).2 List.nodup_range'
  have hsub : (List.range' n tries).map (numbered name) ⊆ taken := by
    intro s hs
    obtain ⟨k, hk, rfl⟩ := List.mem_map.1 hs
    obtain ⟨h1, h2⟩ := List.mem_range'_1.1 hk
    exact hnone k h1 h2
  have hlen := (hnodup.subperm hsub).length_le
  rw [List.length_map, List.length_range'] at hlen
  omega

theorem firstFree_add {k : Nat} (more : Nat) : ∀ {tries n : Nat},
    firstFree taken name tries n = some k → firstFree taken name (tries + more) n = some k
  | 0, n, h => by simp [firstFree] at h
  | tries + 1, n, h => by
    rw [Nat.add_right_comm]
    by_cases hn : taken.contains (numbered name n) = true
    · rw [firstFree, if_pos hn] at h ⊢
      exact firstFree_add more h
    · rw [firstFree, if_neg hn] at h ⊢
      exact h

theorem firstFree_min (limit n : Nat) :
    firstFree taken name (min (taken.length + 1) limit) n = firstFree taken name limit n := by
  by_cases h : taken.length + 1 ≤ limit
  · rw [Nat.min_eq_left h]
    obtain ⟨more, rfl⟩ := Nat.exists_eq_add_of_le h
    obtain ⟨k, hk⟩ := Option.ne_none_iff_exists'.1 (firstFree_of_length_lt (n := n) (Nat.lt_succ_self taken.length))
    rw [hk, firstFree_add more hk]
  · rw [Nat.min_eq_right (by omega)]

/-- **The number that is found is the least one that makes the name new**, and one of those tried. -/
theorem firstFree_isLeast {k : Nat} : ∀ {tries n : Nat}, firstFree taken name tries n = some k →
    IsLeast {m | n ≤ m ∧ numbered name m ∉ taken} k ∧ k < n + tries
  | 0, n, h => by simp [firstFree] at h
  | tries + 1, n, h => by
    by_cases hn : numbered name n ∈ taken
    · rw [firstFree, if_pos (by simpa using hn)] at h
      obtain ⟨⟨⟨hnk, hfree⟩, hleast⟩, hk⟩ := firstFree_isLeast h
      refine ⟨⟨⟨by omega, hfree⟩, fun m hm => ?_⟩, by omega⟩
      -- the number that is passed over is no candidate
      have hne : m ≠ n := fun he => hm.2 (he ▸ hn)
      have hnm : n ≤ m := hm.1
      exact hleast ⟨by omega, hm.2⟩
    · rw [firstFree, if_neg (by simpa using hn)] at h
      obtain rfl : n = k := Option.some.inj h
      exact ⟨⟨⟨Nat.le_refl n, hn⟩, fun m hm => hm.1⟩, by omega⟩

theorem firstFree_congr (h : ∀ k, numbered name k ∈ taken ↔ numbered name k ∈ taken') :
    ∀ tries n, firstFree taken name tries n = firstFree taken' name tries n
  | 0, _ => rfl
  | tries + 1, n => by
    have hc : taken.contains (numbered name n) = taken'.contains (numbered name n) := by
      rw [Bool.eq_iff_iff, List.contains_iff_mem, List.contains_iff_mem, h n]
    rw [firstFree, firstFree, hc, firstFree_congr h tries (n + 1)]

/-! ## Claims -/

/-- A claim depends on the taken names only by which of the name's own forms are among them. -/
theorem claim_congr (hname : name ∈ taken ↔ name ∈ taken')
    (hnumbered : ∀ k, numbered name k ∈ taken ↔ numbered name k ∈ taken') : claim taken name = claim taken' name := by
  have hc : taken.contains name = taken'.contains name := by
    rw [Bool.eq_iff_iff, List.contains_iff_mem, List.contains_iff_mem, hname]
  simp only [claim, hc, firstFree_min]
  rw [firstFree_congr hnumbered]

theorem length_claimAll : ∀ (taken names : List String), (claimAll taken names).length = names.length
  | _, [] => rfl
  | taken, name :: names => by rw [claimAll, List.length_cons, List.length_cons, length_claimAll]

/-- Names that are claimed later do not show in the claims before them. -/
theorem claimAll_append (taken names more : List String) : claimAll taken (names ++ more) =
    claimAll taken names ++ claimAll (((claimAll taken names).map Claim.name).reverse ++ taken) more := by
  induction names generalizing taken with
  | nil => rfl
  | cons name names ih =>
    simp only [List.cons_append, claimAll, ih, List.map_cons, List.reverse_cons, List.append_assoc, List.nil_append]

/-- What a claim hands out is the name or the name with a number behind it. -/
theorem claim_name_cases (taken : List String) (name : String) :
    (claim taken name).name = name ∨ ∃ k, (claim taken name).name = numbered name k := by
  unfold claim
  split
  · cases hf : firstFree taken name (min (taken.length + 1) (numberLimit - 2)) 2 with
    | none => exact Or.inl rfl
    | some k => exact Or.inr ⟨k, rfl⟩
  · exact Or.inl rfl

/-- What holds of names and of numbered names holds of the names handed out for them. -/
theorem forall_claimAll {P : String → Prop} (hnumbered : ∀ name k, P name → P (numbered name k)) :
    ∀ {names : List String} (taken : List String), (∀ name ∈ names, P name) → ∀ c ∈ claimAll taken names, P c.name
  | [], _, _ => by simp [claimAll]
  | name :: names, taken, h => by
    obtain ⟨hname, hnames⟩ := List.forall_mem_cons.1 h
    refine List.forall_mem_cons.2 ⟨?_, forall_claimAll hnumbered _ hnames⟩
    rcases claim_name_cases taken name with he | ⟨k, he⟩
    · rw [he]
      exact hname
    · rw [he]
      exact hnumbered name k hname

theorem claim_of_not_mem (h : name ∉ taken) : claim taken name = ⟨name, false⟩ := by
  rw [claim, if_neg (by simpa using h)]

/-- **A name that is taken gets the least number that makes it new**, as long as fewer names are taken than there are
numbers. -/
theorem exists_claim_of_mem (h : name ∈ taken) (hfew : taken.length < numberLimit - 2) :
    ∃ n < numberLimit, IsLeast {m | 2 ≤ m ∧ numbered name m ∉ taken} n ∧
      claim taken name = ⟨numbered name n, true⟩ := by
  have htries : taken.length < min (taken.length + 1) (numberLimit - 2) := by omega
  have hfound : firstFree taken name (min (taken.length + 1) (numberLimit - 2)) 2 ≠ none :=
    firstFree_of_length_lt htries
  obtain ⟨n, hn⟩ := Option.ne_none_iff_exists'.1 hfound
  obtain ⟨hleast, hbound⟩ := firstFree_isLeast hn
  refine ⟨n, by omega, hleast, ?_⟩
  rw [claim, if_pos (by simpa using h), hn]
  rfl

theorem claim_not_mem (name : String) (hfew : taken.length < numberLimit - 2) : (claim taken name).name ∉ taken := by
  by_cases h : name ∈ taken
  · obtain ⟨n, -, hleast, he⟩ := exists_claim_of_mem h hfew
    rw [he]
    exact hleast.1.2
  · rwa [claim_of_not_mem h]

/-- Names claimed in turn differ from each other and from those taken before. -/
theorem nodup_claimAll : ∀ {names taken : List String}, taken.length + names.length ≤ numberLimit - 2 →
    ((claimAll taken names).map Claim.name).Nodup ∧ ∀ c ∈ claimAll taken names, c.name ∉ taken
  | [], _, _ => by simp [claimAll]
  | name :: names, taken, h => by
    rw [List.length_cons] at h
    have hlater : (((claim taken name).name :: taken).length + names.length) ≤ numberLimit - 2 := by
      rw [List.length_cons]
      omega
    obtain ⟨hnodup, hfresh⟩ := nodup_claimAll hlater
    refine ⟨List.nodup_cons.2 ⟨fun hm => ?_, hnodup⟩, List.forall_mem_cons.2 ⟨?_, fun c hc hm => ?_⟩⟩
    · obtain ⟨c, hc, hname⟩ := List.mem_map.1 hm
      exact hfresh c hc (hname ▸ List.mem_cons_self)
    · exact claim_not_mem name (by omega)
    · exact hfresh c hc (List.mem_cons_of_mem _ hm)

end ApiValidators.Naming
