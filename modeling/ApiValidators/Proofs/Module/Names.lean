import ApiValidators.Proofs.Module.Sections
import ApiValidators.Proofs.Naming.Legality
import Mathlib.Algebra.Group.Nat.Defs

/-!
# The names of a module

Whatever the texts of a document are, the statements made from it have names that can be bound, all of them different,
and each starts with the kind of its section (`generate_names`). Names of one section differ because claims do, names of
two sections because their kinds do.
-/

namespace ApiValidators

open Naming

/-! ## Names of a section -/

variable {part : Section} {drafts : List Draft}

/-- The statements of a section have bare names, if its drafts ask for such. -/
theorem Section.isBareName_statements (h : ∀ draft ∈ drafts, isBareName draft.identifier.toList = true)
    (taken : List String) : ∀ s ∈ part.statements taken drafts, isBareName s.identifier.toList = true := by
  rw [← List.forall_mem_map (P := fun name : String => isBareName name.toList = true) (f := Statement.identifier),
    part.map_identifier_statements, List.forall_mem_map]
  exact forall_claimAll (P := fun name => isBareName name.toList = true) (fun _ k hname => isBareName_numbered hname k)
    taken (List.forall_mem_map.2 h)

theorem Section.length_statements (part : Section) (taken : List String) (drafts : List Draft) :
    (part.statements taken drafts).length = drafts.length := by
  have h := congrArg List.length (part.map_identifier_statements taken drafts)
  simpa only [List.length_map, length_claimAll] using h

/-- The statements of a section that is smaller than the set of numbers have different names. -/
theorem Section.nodup_statements (h : drafts.length ≤ numberLimit - 2) :
    ((part.statements [] drafts).map Statement.identifier).Nodup := by
  rw [part.map_identifier_statements]
  refine (nodup_claimAll ?_).1
  rwa [List.length_nil, List.length_map, Nat.zero_add]

/-! ## Names of a module -/

theorem Section.ne_import_of_owns {name : String} (h : part.Owns name) : name ≠ "z" := by
  rintro rfl
  unfold Section.Owns at h
  revert h
  cases part <;> decide

theorem Options.nodup_sections (o : Options) : o.sections.Nodup := by
  refine List.Nodup.filter _ ?_
  decide

/-- The names of sections with names of their own are all different, if those of each section are. -/
theorem Options.nodup_identifiers {o : Options} {own : Section → List Statement}
    (hown : ∀ part, ∀ s ∈ own part, part.Owns s.identifier)
    (hnodup : ∀ part ∈ o.sections, ((own part).map Statement.identifier).Nodup) :
    ((o.sections.flatMap own).map Statement.identifier).Nodup := by
  rw [List.map_flatMap, List.nodup_flatMap]
  refine ⟨hnodup, o.nodup_sections.imp fun {part other} hne name hname hother => hne ?_⟩
  obtain ⟨s, hs, rfl⟩ := List.mem_map.1 hname
  obtain ⟨t, ht, he⟩ := List.mem_map.1 hother
  exact Section.kind_unique (hown part s hs) (he ▸ hown other t ht)

/-- **Generated names are legal and unique.** A run that succeeds gives its statements bare names that are not reserved
and do not hide the imported library; each starts with the kind of the section it belongs to, that is of the section
whose run alone gives it; and as long as there are fewer statements than numbers, all names are different. -/
theorem Document.generate_names {d : Document} {o : Options} {statements : List Statement}
    (h : (d.generate o).1 = .ok statements) (hfew : statements.length < 2 ^ 32 - 2) :
    (statements.map Statement.identifier).Nodup ∧
      (∀ s ∈ statements, isBareName s.identifier.toList = true ∧ s.identifier ∉ reserved ∧ s.identifier ≠ "z") ∧
      ∃ own : Section → List Statement, (∀ part, (d.generate (o.only part)).1 = .ok (own part)) ∧
        statements = o.sections.flatMap own ∧ ∀ part, ∀ s ∈ own part, part.Owns s.identifier := by
  obtain ⟨flat, hflat, rfl⟩ := Document.generate_ok_iff.1 h
  rw [Document.assemble_eq_sections] at hfew ⊢
  have howns : ∀ part : Section, ∀ s ∈ part.statements [] (part.drafts o.mode flat), part.Owns s.identifier :=
    fun part => Section.owns_statements (part.owns_drafts o.mode flat) []
  refine ⟨Options.nodup_identifiers howns fun part hpart => Section.nodup_statements ?_, fun s hs => ?_,
    fun part => part.statements [] (part.drafts o.mode flat), Document.generate_only hflat o, rfl, howns⟩
  · -- a section is part of the module, so it has no more statements
    have hlength := (List.sublist_flatten_of_mem (List.mem_map_of_mem (f := fun part : Section =>
      part.statements [] (part.drafts o.mode flat)) hpart)).length_le
    rw [Section.length_statements, ← List.flatMap_def] at hlength
    rw [numberLimit]
    omega
  · obtain ⟨part, -, hs⟩ := List.mem_flatMap.1 hs
    have hbare : ∀ draft ∈ part.drafts o.mode flat, isBareName draft.identifier.toList = true := by
      intro draft hd
      obtain ⟨source, hsource⟩ := part.identifier_drafts o.mode flat draft hd
      rw [hsource]
      exact isBareName_exportName _ source
    exact ⟨Section.isBareName_statements hbare [] s hs, notReserved_of_owns (howns part s hs),
      Section.ne_import_of_owns (howns part s hs)⟩

def Operation.listing (id : String) : Operation where
  operationId := some id
  parameters := [.inline { name := "x", location := .query, schema := some (.inline {}) }]

/-- Three operations, the first two of which ask for one name, and the last for the name that the second one gets. -/
def collisions : Document where
  paths := ⟨[("/a", { operation := .build fun
    | .get => some (.listing "a")
    | .put => some (.listing "A")
    | .post => some (.listing "a2")
    | _ => none })], List.nodup_singleton _⟩

/-- Names that run into numbered names get further numbers. -/
theorem generate_names_collisions : ∃ statements, (collisions.generate {}).1 = .ok statements ∧
    statements.length < 2 ^ 32 - 2 ∧ statements.map Statement.identifier = ["queryA", "queryA2", "queryA22"] ∧
    (statements.map Statement.identifier).Nodup ∧
    ∀ s ∈ statements, isBareName s.identifier.toList = true ∧ s.identifier ∉ reserved ∧ s.identifier ≠ "z" := by
  have h : (collisions.generate {}).1 = .ok (collisions.assemble {}).1 := rfl
  have hnames : (collisions.assemble {}).1.map Statement.identifier = ["queryA", "queryA2", "queryA22"] := rfl
  have hfew : (collisions.assemble {}).1.length < 2 ^ 32 - 2 := by
    rw [← List.length_map (f := Statement.identifier), hnames]
    decide
  obtain ⟨hnodup, hlegal, -⟩ := Document.generate_names h hfew
  exact ⟨_, h, hfew, hnames, hnodup, hlegal⟩

end ApiValidators
