import ApiValidators.Validator.Builder

/-!
# What constraints admit

The constraint keywords of a body give modifiers in a fixed order: first those for sizes, which all have the name `min`
or `max`, then the bounds of numbers. A bound may be strict for two reasons, a flag beside it or a keyword of its own,
and both may be there. `Constraint.forall_bounds` says of each pair of keywords which bounds come out of it, and
`Keywords.constraints_exact` that the modifiers admit exactly the numbers that the keywords admit.
-/

namespace ApiValidators

/-! ## Exact values -/

def Binary64.toRat (x : Binary64) : Rat :=
  let magnitude : Rat := x.ratio.1 / x.ratio.2
  if x.negative then -magnitude else magnitude

/-- The exact value of a number. -/
def Number.toRat : Number → Rat
  | whole n => n
  | double x => x.toRat

/-- Whether a number meets a modifier. All but the four bounds of numbers say nothing about it. -/
def Modifier.Admits (x : Rat) : Modifier Expr → Prop
  | ⟨"gt", [.literal (.number n)]⟩ => n.toRat < x
  | ⟨"gte", [.literal (.number n)]⟩ => n.toRat ≤ x
  | ⟨"lt", [.literal (.number n)]⟩ => x < n.toRat
  | ⟨"lte", [.literal (.number n)]⟩ => x ≤ n.toRat
  | _ => True

/-! ## Pairs of keywords -/

/-- The bound that an exclusive keyword is in its own right. -/
def ExclusiveBound.limit? : ExclusiveBound → Option Number
  | flag _ => none
  | limit n => some n

namespace Constraint

variable {strict inclusive : String} {bound : Option Number} {exclusive : Option ExclusiveBound}

/-- **The bounds of a pair of keywords**: the inclusive one, which a flag makes strict, and the exclusive one where it
is a number. -/
theorem forall_bounds {P : String × Number → Prop} :
    (∀ limit ∈ bounds strict inclusive bound exclusive, P limit) ↔
      (∀ n, bound = some n → P (if exclusive = some (.flag true) then strict else inclusive, n)) ∧
        ∀ n, exclusive = some (.limit n) → P (strict, n) := by
  rcases exclusive with _ | ⟨_ | _⟩ | n <;> cases bound <;> simp [bounds]

/-- No number of a pair of keywords is lost, and none comes twice. -/
theorem numbers_bounds (strict inclusive : String) (bound : Option Number) (exclusive : Option ExclusiveBound) :
    (bounds strict inclusive bound exclusive).map Prod.snd =
      bound.toList ++ (exclusive.bind ExclusiveBound.limit?).toList := by
  rcases exclusive with _ | ⟨_ | _⟩ | n <;> cases bound <;> rfl

theorem names_bounds {limit : String × Number} (h : limit ∈ bounds strict inclusive bound exclusive) :
    limit.1 = strict ∨ limit.1 = inclusive := by
  revert limit
  rw [forall_bounds]
  refine ⟨fun n _ => ?_, fun n _ => .inl rfl⟩
  split
  · exact .inl rfl
  · exact .inr rfl

end Constraint

/-! ## All keywords -/

namespace Keywords

/-- The sizes that are set, with the names of their modifiers. -/
def sizes (k : Keywords) : List (String × Number) :=
  k.minItems.toList.map ("min", ·) ++ k.maxItems.toList.map ("max", ·) ++
    k.minLength.toList.map ("min", ·) ++ k.maxLength.toList.map ("max", ·)

def lowerBounds (k : Keywords) : List (String × Number) := Constraint.bounds "gt" "gte" k.minimum k.exclusiveMinimum

def upperBounds (k : Keywords) : List (String × Number) := Constraint.bounds "lt" "lte" k.maximum k.exclusiveMaximum

theorem constraints_eq (k : Keywords) : k.constraints =
    (k.sizes ++ k.lowerBounds ++ k.upperBounds).map fun (name, n) => .ofLiteral name (.number n) := by
  simp [constraints, Constraint.all, Constraint.modifiers, Constraint.limits, sizes, lowerBounds, upperBounds]

theorem mem_sizes {k : Keywords} {limit : String × Number} (h : limit ∈ k.sizes) :
    limit.1 = "min" ∨ limit.1 = "max" := by
  simp only [sizes, List.mem_append, List.mem_map] at h
  rcases h with ((⟨n, -, rfl⟩ | ⟨n, -, rfl⟩) | ⟨n, -, rfl⟩) | ⟨n, -, rfl⟩ <;> simp

theorem admits_size {k : Keywords} {limit : String × Number} (h : limit ∈ k.sizes) (x : Rat) :
    (Modifier.ofLiteral limit.1 (.number limit.2)).Admits x := by
  obtain ⟨name, n⟩ := limit
  rcases mem_sizes h with rfl | rfl <;> trivial

theorem admits_lowerBounds (k : Keywords) (x : Rat) :
    (∀ limit ∈ k.lowerBounds, (Modifier.ofLiteral limit.1 (.number limit.2)).Admits x) ↔
      (∀ n, k.minimum = some n → if k.exclusiveMinimum = some (.flag true) then n.toRat < x else n.toRat ≤ x) ∧
        ∀ n, k.exclusiveMinimum = some (.limit n) → n.toRat < x := by
  rw [lowerBounds, Constraint.forall_bounds]
  refine and_congr (forall₂_congr fun n _ => ?_) Iff.rfl
  split <;> exact Iff.rfl

theorem admits_upperBounds (k : Keywords) (x : Rat) :
    (∀ limit ∈ k.upperBounds, (Modifier.ofLiteral limit.1 (.number limit.2)).Admits x) ↔
      (∀ n, k.maximum = some n → if k.exclusiveMaximum = some (.flag true) then x < n.toRat else x ≤ n.toRat) ∧
        ∀ n, k.exclusiveMaximum = some (.limit n) → x < n.toRat := by
  rw [upperBounds, Constraint.forall_bounds]
  refine and_congr (forall₂_congr fun n _ => ?_) Iff.rfl
  split <;> exact Iff.rfl

/-- **The constraints admit exactly the numbers that the keywords admit**, in either way of writing an exclusive bound:
as a flag, which makes the inclusive bound strict, or as a bound in its own right beside it. The modifiers are those of
the sizes that are set, then the bounds below and then those above; each number that is set stands there once, under a
name of its own keyword. -/
theorem constraints_exact (k : Keywords) :
    (∀ x : Rat, (∀ m ∈ k.constraints, m.Admits x) ↔
      (∀ n, k.minimum = some n → if k.exclusiveMinimum = some (.flag true) then n.toRat < x else n.toRat ≤ x) ∧
      (∀ n, k.exclusiveMinimum = some (.limit n) → n.toRat < x) ∧
      (∀ n, k.maximum = some n → if k.exclusiveMaximum = some (.flag true) then x < n.toRat else x ≤ n.toRat) ∧
      (∀ n, k.exclusiveMaximum = some (.limit n) → x < n.toRat)) ∧
    ∃ lower upper : List (String × Number),
      k.constraints = (k.sizes ++ lower ++ upper).map (fun (name, n) => .ofLiteral name (.number n)) ∧
      (∀ limit ∈ lower, limit.1 = "gt" ∨ limit.1 = "gte") ∧
      lower.map Prod.snd = k.minimum.toList ++ (k.exclusiveMinimum.bind ExclusiveBound.limit?).toList ∧
      (∀ limit ∈ upper, limit.1 = "lt" ∨ limit.1 = "lte") ∧
      upper.map Prod.snd = k.maximum.toList ++ (k.exclusiveMaximum.bind ExclusiveBound.limit?).toList := by
  constructor
  · intro x
    have hsizes : ∀ limit ∈ k.sizes, (Modifier.ofLiteral limit.1 (.number limit.2)).Admits x := fun _ h =>
      admits_size h x
    rw [constraints_eq, List.forall_mem_map, List.forall_mem_append, List.forall_mem_append, admits_lowerBounds,
      admits_upperBounds, and_iff_right hsizes, and_assoc]
  · refine ⟨k.lowerBounds, k.upperBounds, k.constraints_eq, ?_, ?_, ?_, ?_⟩
    · intro limit hlimit
      exact Constraint.names_bounds hlimit
    · exact Constraint.numbers_bounds ..
    · intro limit hlimit
      exact Constraint.names_bounds hlimit
    · exact Constraint.numbers_bounds ..

/-- Sizes, a bound that a flag makes strict, and above two bounds, of which the exclusive one is tighter. -/
def gauge : Keywords where
  minimum := some (.whole (-3))
  exclusiveMinimum := some (.flag true)
  maximum := some (.whole 9)
  exclusiveMaximum := some (.limit (.double ⟨false, 0x11000000000000, -49, by decide, by decide⟩))
  maxLength := some (.whole 4)
  minItems := some (.whole 1)

/-- The exclusive bound of the gauge is 8.5, so 8 is admitted and 9 is not. -/
theorem constraints_exact_gauge :
    gauge.constraints.map Modifier.name = ["min", "max", "gt", "lte", "lt"] ∧
      (∀ m ∈ gauge.constraints, m.Admits 8) ∧ ¬ ∀ m ∈ gauge.constraints, m.Admits 9 := by
  obtain ⟨hadmits, -⟩ := constraints_exact gauge
  refine ⟨rfl, (hadmits 8).2 ⟨?_, ?_, ?_, ?_⟩, fun h => ?_⟩
  · rintro _ ⟨⟩
    decide +kernel
  · rintro _ ⟨⟩
  · rintro _ ⟨⟩
    decide +kernel
  · rintro _ ⟨⟩
    decide +kernel
  · obtain ⟨-, -, -, habove⟩ := (hadmits 9).1 h
    exact absurd (habove _ rfl) (by decide +kernel)

end Keywords

end ApiValidators
