import ApiValidators.Proofs.Document.Validation
import ApiValidators.Proofs.Module.OwnParameters
import ApiValidators.Proofs.Validator.Modes

/-!
# Path parameters

A path cannot be filled in without its parameters, and validation sees to it that all of them are required, the shared
ones and those of operations alike. Whichever of them an operation has in the end, its statement in the path section is
an object whose members are built as required, and so none of them is marked (`generate_path_unmarked`).
-/

namespace ApiValidators

/-- Where all parameters are required, the members of the object for them are built as required. -/
theorem Parameter.exists_build_of_mem_members {mode : NullableMode} {parameters : List (Parameter × Schema)}
    (hall : ∀ q ∈ parameters, q.1.required = true) {m : Member Expr} (hm : m ∈ members mode parameters) :
    ∃ s : Schema, m.value = s.build mode true := by
  obtain ⟨⟨name, s⟩, he, rfl⟩ := List.mem_map.1 hm
  obtain ⟨q, hq, hpair⟩ := List.mem_map.1 (Entries.mem_of_mem_collect he)
  have hname : q.1.name = name := congrArg Prod.fst hpair
  have hrequired : (parameters.any fun q => q.1.name == name && q.1.required) = true :=
    List.any_eq_true.2 ⟨q, hq, by simp [hname, hall q hq]⟩
  exact ⟨s, congrArg (s.build mode) hrequired⟩

/-- Resolving a document without problems leaves it with required parameters in paths. -/
theorem Document.required_of_mem_located {d flat : Document} (hvalid : d.problems = []) (hflat : d.resolve.1 = .ok flat)
    {e : Endpoint} (he : e ∈ flat.endpoints) : ∀ q ∈ e.located .path, q.1.required = true := by
  rintro ⟨p, s⟩ hq
  obtain ⟨hcounts, hlocation⟩ := List.mem_filter.1 hq
  have hpath : p.location = .path := eq_of_beq hlocation
  obtain ⟨hentry, -⟩ := Endpoint.entry_of_mem_parameters he hcounts
  obtain ⟨original, horiginal, hrel⟩ := exists_of_forall₂ (Document.rel_of_resolve hflat).entries hentry
  -- of the entry as it was in the document only the schema can differ
  cases hrel with
  | bare _ => exact (Document.wellFormed_of_problems hvalid horiginal).required hpath
  | schema _ _ => exact (Document.wellFormed_of_problems hvalid horiginal).required hpath

/-- **Path parameters are never optional.** If nothing is wrong with a document, each statement of its path section is
an object none of whose members has the mark of a value that is not required, of either mode, called on it. -/
theorem Document.generate_path_unmarked {d : Document} (hvalid : d.problems = []) {o : Options}
    {statements : List Statement} (h : (d.generate o).1 = .ok statements) :
    ∃ own : Section → List Statement, (∀ part, (d.generate (o.only part)).1 = .ok (own part)) ∧
      statements = o.sections.flatMap own ∧
      ∀ s ∈ own .paths, ∃ members, s.expression = .ofBase (.object members) ∧
        ∀ m ∈ members, ∀ mark : NullableMode, mark.name ∉ m.value.modifierNames := by
  obtain ⟨flat, hflat, rfl⟩ := Document.generate_ok_iff.1 h
  refine ⟨fun part => part.statements [] (part.drafts o.mode flat), Document.generate_only hflat o,
    Document.assemble_eq_sections o flat, fun s hs => ?_⟩
  have hpath : Location.section? .path = some .paths := rfl
  obtain ⟨e, he, hexpression⟩ := exists_of_forall₂ (Section.forall₂_statements o.mode flat hpath []) hs
  refine ⟨_, hexpression.trans (Parameter.build_object o.mode _), fun m hm mark => ?_⟩
  have hrequired := Document.required_of_mem_located hvalid hflat (List.mem_of_mem_filter he)
  obtain ⟨t, ht⟩ := Parameter.exists_build_of_mem_members hrequired hm
  rw [ht]
  exact t.unmarked_build mark

/-- A path shares two parameters, and an operation has one of them itself, with a schema that takes over the expression
of a branch of a branch. -/
def visits : Document where
  openapi := some "3.0.0"
  paths := ⟨[("/owners/{owner}/pets/{pet}", {
    operation := .build fun
      | .get => some {
          operationId := some "visit"
          parameters := [
            .inline {
              name := "pet"
              location := .path
              required := true
              schema := some (.inline { allOf := [
                .inline { type := some (.one "string") },
                .inline { allOf := [.inline { type := some (.one "integer"), default := some .null }] }] }) },
            .inline { name := "page", location := .query, schema := some (.inline {}) }] }
      | _ => none
    parameters := [
      .inline { name := "owner", location := .path, required := true, schema := some (.inline {}) },
      .inline { name := "pet", location := .path, required := true, schema := some (.inline {}) }] })],
    List.nodup_singleton _⟩

/-- Both members of the path statement are unmarked. -/
theorem generate_path_unmarked_visits : visits.problems = [] ∧
    ∃ statements, (visits.generate {}).1 = .ok statements ∧ ∃ s ∈ statements, s.identifier = "pathVisit" ∧
      ∃ members, s.expression = .ofBase (.object members) ∧ members.map Member.name = ["owner", "pet"] ∧
        ∀ m ∈ members, ∀ mark : NullableMode, mark.name ∉ m.value.modifierNames := by
  have hvalid : visits.problems = [] := rfl
  have h : (visits.generate {}).1 = .ok (visits.assemble {}).1 := rfl
  obtain ⟨own, honly, hsections, hpaths⟩ := Document.generate_path_unmarked hvalid h
  have hown : own .paths = (visits.assemble (Options.only {} .paths)).1 := Except.ok.inj (honly .paths).symm
  obtain ⟨s, hs, hidentifier, hnames⟩ : ∃ s ∈ own .paths, s.identifier = "pathVisit" ∧
      ∀ members, s.expression = .ofBase (.object members) → members.map Member.name = ["owner", "pet"] := by
    rw [hown]
    refine ⟨_, List.mem_cons_self, rfl, fun members hmembers => ?_⟩
    cases hmembers
    rfl
  obtain ⟨members, hexpression, hunmarked⟩ := hpaths s hs
  refine ⟨hvalid, _, h, s, ?_, hidentifier, members, hexpression, hnames members hexpression, hunmarked⟩
  rw [hsections]
  exact List.mem_flatMap.2 ⟨.paths, by decide, hs⟩

end ApiValidators
