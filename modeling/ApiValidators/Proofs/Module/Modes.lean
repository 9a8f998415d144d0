import ApiValidators.Proofs.Module.SelfContained
import ApiValidators.Proofs.Validator.Modes

/-!
# Modules in two modes

A run in one mode gives the statements of a run in the other, with the marks of values that are not required renamed
inside their expressions (`generate_modes`). Names, comments, sections and errors do not depend on the mode.
-/

namespace ApiValidators

def Draft.reword (draft : Draft) : Draft := { draft with expression := draft.expression.reword }

def Statement.reword (s : Statement) : Statement := { s with expression := s.expression.reword }

/-! ## Drafts -/

theorem Draft.reword_component (name : String) (s : Schema) :
    (Draft.component .nullish name s).reword = Draft.component .optional name s := by
  simp only [Draft.reword, Draft.component, Schema.rename_build]

theorem Endpoint.reword_draft (part : Section) (location : Location) (e : Endpoint) :
    (e.draft .nullish part location).reword = e.draft .optional part location := by
  simp only [Draft.reword, Endpoint.draft, Schema.rename_build]

theorem Section.reword_drafts (part : Section) (d : Document) :
    (part.drafts .nullish d).map Draft.reword = part.drafts .optional d := by
  have hendpoints : ∀ location : Location, location.section? = some part →
      (part.drafts .nullish d).map Draft.reword = part.drafts .optional d := by
    intro location h
    rw [part.drafts_endpoints .nullish d h, part.drafts_endpoints .optional d h, List.map_map]
    exact List.map_congr_left fun e _ => e.reword_draft part location
  cases part with
  | components =>
    show (d.declared.map fun e => Draft.component .nullish e.1 e.2).map Draft.reword = _
    rw [List.map_map]
    exact List.map_congr_left fun e _ => Draft.reword_component e.1 e.2
  | paths => exact hendpoints .path rfl
  | queries => exact hendpoints .query rfl

/-! ## Statements -/

/-- Statements take from drafts what does not depend on their expressions, and the expressions as they are. -/
theorem Section.reword_statements (part : Section) (taken : List String) (drafts : List Draft) :
    (part.statements taken drafts).map Statement.reword = part.statements taken (drafts.map Draft.reword) := by
  have hidentifiers : (drafts.map Draft.reword).map Draft.identifier = drafts.map Draft.identifier := by
    rw [List.map_map]
    rfl
  simp only [Section.statements, hidentifiers]
  rw [List.zip_map_left, List.zipIdx_map, List.map_map, List.map_map]
  rfl

/-- What is assembled from a document without references differs in the marks alone. -/
theorem Document.reword_assemble (o : Options) (d : Document) :
    (d.assemble { o with mode := .nullish }).1.map Statement.reword = (d.assemble { o with mode := .optional }).1 := by
  rw [Document.assemble_eq_sections, Document.assemble_eq_sections, List.map_flatMap]
  have hsections : Options.sections { o with mode := .nullish } = Options.sections { o with mode := .optional } := rfl
  have hpart : ∀ part : Section, (part.statements [] (part.drafts .nullish d)).map Statement.reword =
      part.statements [] (part.drafts .optional d) := by
    intro part
    rw [part.reword_statements, part.reword_drafts]
  rw [hsections]
  simp only [hpart]

theorem Document.foreign_mark_assemble (other : NullableMode) {o : Options} (h : other ≠ o.mode) {d : Document} :
    ∀ s ∈ (d.assemble o).1, s.expression.All fun e => other.name ∉ e.modifierNames := by
  intro s hs
  rcases Document.expression_of_mem_assemble hs with ⟨e, -, hexpression⟩ | ⟨e, -, location, hexpression⟩
  · rw [hexpression]
    exact e.2.foreign_mark_build h true
  · rw [hexpression]
    exact Schema.foreign_mark_build h _ true

/-! ## Runs -/

/-- **The mode renames the mark of values that are not required and nothing else.** Runs in both modes fail with the
same error, or the statements of the one are those of the other with `nullish` replaced by `optional` in their
expressions, wherever it is a modifier without arguments. Neither has the mark of the other at any depth. -/
theorem Document.generate_modes (d : Document) (o : Options) :
    (∃ e, (d.generate { o with mode := .optional }).1 = .error e ∧
      (d.generate { o with mode := .nullish }).1 = .error e) ∨
    ∃ optional nullish, (d.generate { o with mode := .optional }).1 = .ok optional ∧
      (d.generate { o with mode := .nullish }).1 = .ok nullish ∧
      optional = nullish.map (fun s => { s with expression := s.expression.rename "nullish" "optional" }) ∧
      (∀ s ∈ optional, s.expression.All fun e => "nullish" ∉ e.modifierNames) ∧
      ∀ s ∈ nullish, s.expression.All fun e => "optional" ∉ e.modifierNames := by
  rcases hd : d.resolve with ⟨e | flat, warnings⟩
  · refine .inl ⟨e, ?_, ?_⟩ <;> rw [Document.generate, hd]
  · have hgenerate : ∀ o : Options, (d.generate o).1 = .ok (flat.assemble o).1 := fun o =>
      Document.generate_ok_iff.2 ⟨flat, by rw [hd], rfl⟩
    refine .inr ⟨_, _, hgenerate _, hgenerate _, (Document.reword_assemble o flat).symm, ?_, ?_⟩
    · exact Document.foreign_mark_assemble .nullish (by simp)
    · exact Document.foreign_mark_assemble .optional (by simp)

end ApiValidators
