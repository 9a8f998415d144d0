import ApiValidators.Module.Assembly
import ApiValidators.Proofs.Naming.Kinds

/-!
# Sections on their own

All sections take their names from one set, and yet none shows in another: a run gives the statements of each enabled
section just as a run with that section alone does (`generate_eq_sections`). The reason is that the names of a section,
numbered or not, start with its kind.
-/

namespace ApiValidators

open Naming

/-! ## Options -/

def Options.enables (o : Options) : Section → Bool
  | .components => o.components
  | .paths => o.paths
  | .queries => o.queries

/-- The sections that are generated, in their order. -/
def Options.sections (o : Options) : List Section := [Section.components, .paths, .queries].filter o.enables

/-- The options that generate one section alone, in the same mode. -/
def Options.only (o : Options) (part : Section) : Options where
  components := part = .components
  paths := part = .paths
  queries := part = .queries
  mode := o.mode

/-! ## Drafts -/

/-- The drafts of a section. -/
def Section.drafts (mode : NullableMode) (d : Document) : Section → List Draft
  | .components => d.componentDrafts mode
  | .paths => (d.operationDrafts mode).filterMap OperationDrafts.path
  | .queries => (d.operationDrafts mode).filterMap OperationDrafts.query

theorem Operation.identifier_draft? {mode : NullableMode} {part : Section} {location : Location} {name : String}
    {parameters : List (Parameter × Schema)} {draft : Draft}
    (h : Operation.draft? mode part location name parameters = some draft) :
    draft.identifier = exportName part.kind name := by
  simp only [Operation.draft?] at h
  split at h
  · cases h
  · cases h
    rfl

theorem Section.identifier_drafts (mode : NullableMode) (d : Document) (part : Section) :
    ∀ draft ∈ part.drafts mode d, ∃ source, draft.identifier = exportName part.kind source := by
  intro draft hd
  cases part with
  | components =>
    obtain ⟨⟨name, s⟩, _, rfl⟩ := List.mem_map.1 hd
    exact ⟨name, rfl⟩
  | paths =>
    obtain ⟨o, ho, hpath⟩ := List.mem_filterMap.1 hd
    obtain ⟨⟨path, item⟩, _, ho⟩ := List.mem_flatMap.1 ho
    obtain ⟨⟨method, operation⟩, _, rfl⟩ := List.mem_map.1 ho
    exact ⟨_, Operation.identifier_draft? hpath⟩
  | queries =>
    obtain ⟨o, ho, hquery⟩ := List.mem_filterMap.1 hd
    obtain ⟨⟨path, item⟩, _, ho⟩ := List.mem_flatMap.1 ho
    obtain ⟨⟨method, operation⟩, _, rfl⟩ := List.mem_map.1 ho
    exact ⟨_, Operation.identifier_draft? hquery⟩

theorem Section.owns_drafts (mode : NullableMode) (d : Document) (part : Section) :
    ∀ draft ∈ part.drafts mode d, part.Owns draft.identifier := by
  intro draft hd
  obtain ⟨source, hsource⟩ := part.identifier_drafts mode d draft hd
  rw [hsource]
  exact kind_isPrefix_exportName part source

/-! ## Statements -/

/-- Whatever does not depend on the section mark can be read off the drafts and the claims for them. -/
theorem Section.map_statements {α : Type} (part : Section) (taken : List String) (drafts : List Draft)
    {f : Statement → α} {g : Draft × Claim → α}
    (hfg : ∀ draft claim mark, f ⟨claim.name, draft.expression, draft.comment, mark⟩ = g (draft, claim)) :
    (part.statements taken drafts).map f = (drafts.zip (claimAll taken (drafts.map Draft.identifier))).map g := by
  simp only [Section.statements]
  generalize drafts.zip (claimAll taken (drafts.map Draft.identifier)) = pairs
  conv_rhs => rw [← List.zipIdx_map_fst 0 pairs]
  rw [List.map_map, List.map_map]
  refine List.map_congr_left ?_
  rintro ⟨⟨draft, claim⟩, i⟩ -
  exact hfg draft claim _

theorem Section.map_identifier_statements (part : Section) (taken : List String) (drafts : List Draft) :
    (part.statements taken drafts).map Statement.identifier =
      (claimAll taken (drafts.map Draft.identifier)).map Claim.name := by
  rw [part.map_statements taken drafts (g := fun e => e.2.name) fun _ _ _ => rfl, ← Function.comp_def Claim.name,
    ← List.map_map, List.map_snd_zip (by simp [length_claimAll])]

/-- Whatever depends neither on the section mark nor on the name can be read off the drafts. -/
theorem Section.map_statements_drafts {α : Type} (part : Section) (taken : List String) (drafts : List Draft)
    {f : Statement → α} {g : Draft → α}
    (hfg : ∀ draft name mark, f ⟨name, draft.expression, draft.comment, mark⟩ = g draft) :
    (part.statements taken drafts).map f = drafts.map g := by
  rw [part.map_statements taken drafts (g := fun e => g e.1) fun draft claim mark => hfg draft claim.name mark,
    ← Function.comp_def g, ← List.map_map, List.map_fst_zip (by simp [length_claimAll])]

theorem Section.map_expression_statements (part : Section) (taken : List String) (drafts : List Draft) :
    (part.statements taken drafts).map Statement.expression = drafts.map Draft.expression :=
  part.map_statements_drafts taken drafts fun _ _ _ => rfl

theorem Section.forall₂_drafts (part : Section) (taken : List String) (drafts : List Draft) :
    List.Forall₂ (fun draft s => s.expression = draft.expression ∧ s.comment = draft.comment) drafts
      (part.statements taken drafts) := by
  have hmap : (part.statements taken drafts).map (fun s => (s.expression, s.comment)) =
      drafts.map fun draft => (draft.expression, draft.comment) :=
    part.map_statements_drafts taken drafts fun _ _ _ => rfl
  have hforall : List.Forall₂ (· = ·) ((part.statements taken drafts).map fun s => (s.expression, s.comment))
      (drafts.map fun draft => (draft.expression, draft.comment)) := by rw [hmap, List.forall₂_eq_eq_eq]
  rw [List.forall₂_map_left_iff, List.forall₂_map_right_iff] at hforall
  exact hforall.flip.imp fun _ _ => Prod.mk.inj

theorem Section.owns_statements {part : Section} {drafts : List Draft}
    (h : ∀ draft ∈ drafts, part.Owns draft.identifier) (taken : List String) :
    ∀ s ∈ part.statements taken drafts, part.Owns s.identifier := by
  rw [← List.forall_mem_map (P := part.Owns) (f := Statement.identifier), part.map_identifier_statements,
    List.forall_mem_map]
  exact owns_claimAll taken (List.forall_mem_map.2 h)

/-- What is taken by other sections does not show in the statements of a section. -/
theorem Section.statements_congr {part : Section} {drafts : List Draft} {taken : List String}
    (h : ∀ draft ∈ drafts, part.Owns draft.identifier) (ht : ∀ s ∈ taken, ¬ part.Owns s) :
    part.statements taken drafts = part.statements [] drafts := by
  have hc : claimAll taken (drafts.map Draft.identifier) = claimAll [] (drafts.map Draft.identifier) := by
    refine claimAll_congr (List.forall_mem_map.2 h) fun s hs => ?_
    simp only [List.not_mem_nil, iff_false]
    exact fun hm => ht s hm hs
  rw [Section.statements, Section.statements, hc]

theorem Section.statements_ite (part : Section) (taken : List String) (on : Bool) (drafts : List Draft) :
    part.statements taken (if on then drafts else []) = if on then part.statements taken drafts else [] := by
  cases on <;> rfl

/-! ## Runs -/

theorem Options.flatMap_sections {α : Type} (o : Options) (f : Section → List α) :
    o.sections.flatMap f = (if o.components then f .components else []) ++ (if o.paths then f .paths else []) ++
      (if o.queries then f .queries else []) := by
  obtain ⟨components, paths, queries, mode⟩ := o
  cases components <;> cases paths <;> cases queries <;> simp [Options.sections, Options.enables, List.filter]

theorem Options.sections_only (o : Options) (part : Section) : (o.only part).sections = [part] := by
  cases part <;> rfl

theorem Statement.mem_names {s : String} {statements : List Statement} :
    s ∈ Statement.names statements ↔ ∃ t ∈ statements, t.identifier = s := by
  simp [Statement.names]

theorem Statement.mem_names_append {s : String} {first second : List Statement} :
    s ∈ Statement.names (first ++ second) ↔ s ∈ Statement.names first ∨ s ∈ Statement.names second := by
  simp [Statement.names, or_comm]

theorem Section.owns_drafts_ite (mode : NullableMode) (d : Document) (part : Section) (on : Bool) :
    ∀ draft ∈ (if on then part.drafts mode d else []), part.Owns draft.identifier := by
  intro draft hd
  cases on with
  | false => simp at hd
  | true => exact part.owns_drafts mode d draft hd

theorem Section.foreign_names {part other : Section} {drafts : List Draft} (hne : other ≠ part)
    (h : ∀ draft ∈ drafts, other.Owns draft.identifier) (taken : List String) :
    ∀ s ∈ Statement.names (other.statements taken drafts), ¬ part.Owns s := by
  intro s hs hp
  obtain ⟨t, ht, rfl⟩ := Statement.mem_names.1 hs
  exact hne (Section.kind_unique (Section.owns_statements h taken t ht) hp)

/-- The statements of a run: those of each enabled section as if no name were taken. -/
theorem Document.assemble_eq_sections (o : Options) (d : Document) :
    (d.assemble o).1 = o.sections.flatMap fun part => part.statements [] (part.drafts o.mode d) := by
  have howns := Section.owns_drafts_ite o.mode d
  have hpaths : (if o.paths then (if o.paths || o.queries then d.operationDrafts o.mode else []).filterMap
      OperationDrafts.path else []) = if o.paths then Section.paths.drafts o.mode d else [] := by
    cases o.paths <;> rfl
  have hqueries : (if o.queries then (if o.paths || o.queries then d.operationDrafts o.mode else []).filterMap
      OperationDrafts.query else []) = if o.queries then Section.queries.drafts o.mode d else [] := by
    cases o.paths <;> cases o.queries <;> rfl
  have hcomponents : (if o.components then d.componentDrafts o.mode else []) =
      if o.components then Section.components.drafts o.mode d else [] := rfl
  simp only [Document.assemble, hpaths, hqueries, hcomponents]
  have hfirst : ∀ part, Section.components ≠ part → ∀ s ∈ Statement.names (Section.components.statements []
      (if o.components then Section.components.drafts o.mode d else [])), ¬ part.Owns s :=
    fun part hne => Section.foreign_names hne (howns .components o.components) []
  have hsecond : ∀ s ∈ Statement.names (Section.paths.statements []
      (if o.paths then Section.paths.drafts o.mode d else [])), ¬ Section.queries.Owns s :=
    Section.foreign_names (by decide) (howns .paths o.paths) []
  rw [Section.statements_congr (howns .paths o.paths) (hfirst .paths (by decide))]
  -- the last section comes after names of both others
  rw [Section.statements_congr (howns .queries o.queries) fun s hs =>
    (Statement.mem_names_append.1 hs).elim (hfirst .queries (by decide) s) (hsecond s)]
  rw [Options.flatMap_sections, Section.statements_ite, Section.statements_ite, Section.statements_ite]

/-- A run that succeeds assembles what resolving the document gives. -/
theorem Document.generate_ok_iff {o : Options} {d : Document} {statements : List Statement} :
    (d.generate o).1 = .ok statements ↔ ∃ flat, d.resolve.1 = .ok flat ∧ (flat.assemble o).1 = statements := by
  rw [Document.generate]
  rcases d.resolve with ⟨_ | flat, warnings⟩ <;> simp

theorem Document.generate_only {d flat : Document} (h : d.resolve.1 = .ok flat) (o : Options) (part : Section) :
    (d.generate (o.only part)).1 = .ok (part.statements [] (part.drafts o.mode flat)) := by
  refine Document.generate_ok_iff.2 ⟨flat, h, ?_⟩
  rw [Document.assemble_eq_sections, Options.sections_only, List.flatMap_singleton]
  rfl

/-- **Sections are independent**: a run fails exactly when the runs of single sections do, all of them and with the same
error; else it gives the statements of these runs, one enabled section after the other. -/
theorem Document.generate_eq_sections (d : Document) (o : Options) :
    (∃ e, (d.generate o).1 = .error e ∧ ∀ part, (d.generate (o.only part)).1 = .error e) ∨
    ∃ statements : Section → List Statement, (∀ part, (d.generate (o.only part)).1 = .ok (statements part)) ∧
      (d.generate o).1 = .ok (o.sections.flatMap statements) := by
  cases hd : d.resolve with
  | mk outcome warnings =>
    cases outcome with
    | error e =>
      have hgenerate : ∀ o : Options, (d.generate o).1 = .error e := by
        intro o
        rw [Document.generate, hd]
      exact Or.inl ⟨e, hgenerate o, fun part => hgenerate _⟩
    | ok flat =>
      have hgenerate : ∀ o : Options, (d.generate o).1 = .ok (flat.assemble o).1 := by
        intro o
        rw [Document.generate, hd]
      refine Or.inr ⟨fun part => part.statements [] (part.drafts o.mode flat), fun part => ?_, ?_⟩
      · rw [hgenerate, Document.assemble_eq_sections, Options.sections_only, List.flatMap_singleton]
        rfl
      · rw [hgenerate, Document.assemble_eq_sections]

end ApiValidators
