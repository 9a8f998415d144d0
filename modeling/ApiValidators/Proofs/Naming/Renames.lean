import ApiValidators.Module.Assembly
import ApiValidators.Proofs.Naming.Claims
import Mathlib.Algebra.Group.Nat.Defs

/-!
# Which names are handed out

In a run of claims the names that are taken are those handed out by earlier claims (`getElem?_claimAll`), whether or not
they have numbers themselves. So each claim hands out the name that is asked for, if no earlier one did, and else the one
with the least number from 2 on that no earlier one handed out; only then it warns (`claimAll_least`).
-/

namespace ApiValidators

/-- What a claim warns of: that another name than the one asked for was handed out. -/
def Naming.Claim.warnings (asked : String) (c : Claim) : List Warning :=
  if c.renamed then [.renamed asked c.name] else []

theorem Section.renamings_eq (taken : List String) (drafts : List Draft) :
    let names := drafts.map Draft.identifier
    Section.renamings taken drafts =
      (List.zip names (Naming.claimAll taken names)).flatMap fun (name, c) => c.warnings name := by
  intro names
  rw [Section.renamings, List.zip_map_left, List.flatMap_map]
  generalize List.zip drafts _ = claims
  induction claims with
  | nil => rfl
  | cons first claims ih =>
    obtain ⟨draft, c⟩ := first
    rw [List.flatMap_cons, ← ih]
    cases h : c.renamed <;> simp [Naming.Claim.warnings, h]

namespace Naming

/-- **One claim**: a free name is handed out as it is, a taken one with the least number that makes it new, and only then
there is a warning. -/
theorem claim_outcome {taken : List String} (name : String) (hfew : taken.length < numberLimit - 2) :
    (name ∉ taken → (claim taken name).name = name ∧ (claim taken name).warnings name = []) ∧
    (name ∈ taken → ∃ n < numberLimit, IsLeast {m | 2 ≤ m ∧ numbered name m ∉ taken} n ∧
      (claim taken name).name = numbered name n ∧
      (claim taken name).warnings name = [.renamed name (numbered name n)]) := by
  constructor
  · intro hfree
    rw [claim_of_not_mem hfree]
    exact ⟨rfl, rfl⟩
  · intro hmem
    obtain ⟨n, hn, hleast, he⟩ := exists_claim_of_mem hmem hfew
    rw [he]
    exact ⟨n, hn, hleast, rfl, rfl⟩

/-- Each claim is made when the names of the claims before it are taken. -/
theorem getElem?_claimAll (taken names : List String) (i : Nat) : (claimAll taken names)[i]? =
    names[i]?.map (claim ((((claimAll taken names).take i).map Claim.name).reverse ++ taken)) := by
  induction names generalizing taken i with
  | nil => rfl
  | cons name names ih =>
    cases i with
    | zero => rfl
    | succ i =>
      rw [claimAll, List.getElem?_cons_succ, List.getElem?_cons_succ, ih, List.take_succ_cons, List.map_cons,
        List.reverse_cons, List.append_assoc, List.singleton_append]

/-- **Every name handed out is the least free one.** Of fewer claims than there are numbers, each one hands out the name
that is asked for, without a warning, where no earlier claim did, and else the name with the least number from 2 on that
no earlier claim handed out, with one warning. So all names that are handed out differ. These are the warnings of a
section whose drafts ask for the names. -/
theorem claimAll_least {names : List String} (h : names.length < 2 ^ 32 - 2) :
    (claimAll [] names).length = names.length ∧ ((claimAll [] names).map Claim.name).Nodup ∧
    (∀ i name c, names[i]? = some name → (claimAll [] names)[i]? = some c →
      let earlier := ((claimAll [] names).take i).map Claim.name
      (name ∉ earlier → c.name = name ∧ c.warnings name = []) ∧
      (name ∈ earlier → ∃ n < 2 ^ 32, IsLeast {m | 2 ≤ m ∧ numbered name m ∉ earlier} n ∧
        c.name = numbered name n ∧ c.warnings name = [.renamed name (numbered name n)])) ∧
    ∀ drafts : List Draft, drafts.map Draft.identifier = names → Section.renamings [] drafts =
      (List.zip names (claimAll [] names)).flatMap fun (name, c) => c.warnings name := by
  have hlimit : numberLimit = 2 ^ 32 := rfl
  refine ⟨length_claimAll [] names, (nodup_claimAll ?_).1, fun i name c hname hc => ?_, fun drafts hdrafts => ?_⟩
  · rw [List.length_nil, hlimit]
    omega
  · intro earlier
    have hi : i < names.length := (List.getElem?_eq_some_iff.1 hname).1
    have hfew : earlier.reverse.length < numberLimit - 2 := by
      rw [List.length_reverse, List.length_map, List.length_take, length_claimAll, hlimit]
      omega
    have hclaim : claim earlier.reverse name = c := by
      rw [getElem?_claimAll, hname, List.append_nil] at hc
      exact Option.some.inj hc
    simpa only [hclaim, List.mem_reverse, hlimit] using claim_outcome name hfew
  · rw [Section.renamings_eq, hdrafts]

/-- Names asked for in turn, among them some that look like numbered ones. -/
def pets : List String := ["pet", "pet2", "pet", "pet", "pet22", "pet2"]

/-- The last name asked for is taken, and so is the first one with a number behind it. -/
theorem claimAll_least_pets : pets.length < 2 ^ 32 - 2 ∧ ((claimAll [] pets).map Claim.name).Nodup ∧
    ∃ n, IsLeast {m | 2 ≤ m ∧ numbered "pet2" m ∉ ["pet", "pet2", "pet3", "pet4", "pet22"]} n ∧
      numbered "pet2" n = "pet23" := by
  have h : pets.length < 2 ^ 32 - 2 := by decide
  have hlast : (claimAll [] pets)[5]? = some ⟨"pet23", true⟩ := by decide
  have hearlier : ((claimAll [] pets).take 5).map Claim.name = ["pet", "pet2", "pet3", "pet4", "pet22"] := by decide
  obtain ⟨-, hnodup, hclaims, -⟩ := claimAll_least h
  obtain ⟨-, htaken⟩ := hclaims 5 "pet2" _ rfl hlast
  rw [hearlier] at htaken
  obtain ⟨n, -, hleast, hname, -⟩ := htaken (by decide)
  exact ⟨h, hnodup, n, hleast, hname.symm⟩

end Naming

end ApiValidators
