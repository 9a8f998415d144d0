import ApiValidators.Proofs.Module.Sections
import ApiValidators.Proofs.References.Additions
import ApiValidators.Proofs.References.Inlining

/-!
# Edits of a document

What two edits of a document do to its module. A reference that is inlined by hand does not show in it at all
(`generate_of_inlinesTo`). A schema that is added under a new name adds one statement behind those of the named schemas
(`generate_adding`): the names of operations are of another kind, so it takes none of theirs away.
-/

namespace ApiValidators

open Naming

/-! ## Inlining a reference -/

/-- **Inlining a reference does not show in the module.** -/
theorem Document.generate_of_inlinesTo {d d' : Document} (h : d.InlinesTo d') {o : Options}
    {statements : List Statement} (hd : (d.generate o).1 = .ok statements) : (d'.generate o).1 = .ok statements := by
  obtain ⟨flat, hflat, hstatements⟩ := Document.generate_ok_iff.1 hd
  exact Document.generate_ok_iff.2 ⟨flat, Document.resolve_of_inlinesTo h hflat, hstatements⟩

/-- Dogs by their homes, and dogs in kennels. -/
def kennel : Document where
  schemas := some ⟨[
    ("Kennel", .inline { properties := [("dogs", .inline { items := some (.reference "#/components/schemas/Dog") })] }),
    ("Dog", .inline { properties := [("home", .reference "Home")] }),
    ("Home", .inline { type := some (.one "string") })], by decide⟩
  paths := ⟨[], List.nodup_nil⟩

/-- Kennels with the schema of dogs written out, with its reference. -/
def kennelInlined : Document where
  schemas := some ⟨[
    ("Kennel", .inline { properties := [("dogs", .inline {
      items := some (.inline { properties := [("home", .reference "Home")] }) })] }),
    ("Dog", .inline { properties := [("home", .reference "Home")] }),
    ("Home", .inline { type := some (.one "string") })], by decide⟩
  paths := ⟨[], List.nodup_nil⟩

/-- A reference two levels down gives way to a schema that has a reference itself. -/
theorem generate_of_inlinesTo_kennel : kennel.InlinesTo kennelInlined ∧ ∀ o, ∃ statements,
    (kennel.generate o).1 = .ok statements ∧ (kennelInlined.generate o).1 = .ok statements := by
  have hdogs : Schema.InlinesTo kennel.declared (.inline { items := some (.reference "#/components/schemas/Dog") })
      (.inline { items := some (.inline { properties := [("home", .reference "Home")] }) }) :=
    .inside (.items rfl) (.here rfl)
  have hkennel : kennel.InlinesTo kennelInlined :=
    .component rfl (List.nil_append _).symm (.inside (.property (List.nil_append _).symm) hdogs) rfl
  refine ⟨hkennel, fun o => ?_⟩
  obtain ⟨flat, hflat⟩ : ∃ flat, kennel.resolve.1 = .ok flat := exists_ok_of_isOk (by decide +kernel)
  have hgenerate : (kennel.generate o).1 = .ok (flat.assemble o).1 := Document.generate_ok_iff.2 ⟨flat, hflat, rfl⟩
  exact ⟨_, hgenerate, Document.generate_of_inlinesTo hkennel hgenerate⟩

/-! ## Adding a schema -/

theorem Section.statements_concat (part : Section) (taken : List String) (drafts : List Draft) (draft : Draft) :
    ∃ extra, part.statements taken (drafts ++ [draft]) = part.statements taken drafts ++ [extra] := by
  have hlen : drafts.length = (claimAll taken (drafts.map Draft.identifier)).length := by
    rw [length_claimAll, List.length_map]
  simp only [Section.statements, List.map_append, claimAll_append, List.zip_append hlen, List.zipIdx_append]
  exact ⟨_, rfl⟩

theorem Section.drafts_congr (mode : NullableMode) {d d' : Document} (h : d'.paths = d.paths) {part : Section}
    (hpart : part ≠ .components) : part.drafts mode d' = part.drafts mode d := by
  cases part with
  | components => exact absurd rfl hpart
  | paths => simp only [drafts, Document.operationDrafts, h]
  | queries => simp only [drafts, Document.operationDrafts, h]

theorem Document.assemble_components {o : Options} (h : o.components = true) (d : Document) : (d.assemble o).1 =
    (d.assemble (o.only .components)).1 ++ (d.assemble { o with components := false }).1 := by
  simp only [Document.assemble_eq_sections, Options.sections_only, List.flatMap_singleton]
  rw [Options.flatMap_sections, Options.flatMap_sections, if_pos h, if_neg Bool.false_ne_true, List.nil_append,
    List.append_assoc]
  rfl

theorem Document.assemble_congr {o : Options} (h : o.components = false) {d d' : Document}
    (hpaths : d'.paths = d.paths) : (d'.assemble o).1 = (d.assemble o).1 := by
  have hoff : ¬ o.components = true := by simp [h]
  have hpathDrafts := Section.drafts_congr o.mode hpaths (by decide : Section.paths ≠ .components)
  have hqueryDrafts := Section.drafts_congr o.mode hpaths (by decide : Section.queries ≠ .components)
  rw [Document.assemble_eq_sections, Document.assemble_eq_sections, Options.flatMap_sections, Options.flatMap_sections,
    if_neg hoff, if_neg hoff, hpathDrafts, hqueryDrafts]

/-- A named schema behind others adds a statement behind theirs. -/
theorem Document.assemble_concat (o : Options) {d d' : Document} {name : String} {s : Schema}
    (h : d'.declared = d.declared ++ [(name, s)]) :
    ∃ extra, (d'.assemble (o.only .components)).1 = (d.assemble (o.only .components)).1 ++ [extra] := by
  have hdrafts : Section.components.drafts o.mode d' =
      Section.components.drafts o.mode d ++ [.component o.mode name s] := by
    simp only [Section.drafts, Document.componentDrafts, h, List.map_append, List.map_cons, List.map_nil]
  obtain ⟨extra, hextra⟩ := Section.components.statements_concat [] (Section.components.drafts o.mode d)
    (.component o.mode name s)
  refine ⟨extra, ?_⟩
  simp only [Document.assemble_eq_sections, Options.sections_only, List.flatMap_singleton]
  rwa [← hdrafts] at hextra

/-- **A schema that is added disturbs no statement.** Where named schemas have statements, the module has one more of
them, the last one, and in front of it and behind it the statements it had; else it is the same. -/
theorem Document.generate_adding {d : Document} {name : String} (hnew : name ∉ Entries.names d.declared) (s : Schema)
    {o : Options} {before after : List Statement} (h : (d.generate o).1 = .ok before)
    (h' : ((d.adding name s hnew).generate o).1 = .ok after) :
    (o.components = true → ∃ components extra others,
      (d.generate (o.only .components)).1 = .ok components ∧
      ((d.adding name s hnew).generate (o.only .components)).1 = .ok (components ++ [extra]) ∧
      (d.generate { o with components := false }).1 = .ok others ∧
      before = components ++ others ∧ after = components ++ extra :: others) ∧
    (o.components = false → after = before) := by
  obtain ⟨flat, hflat, rfl⟩ := Document.generate_ok_iff.1 h
  obtain ⟨flat', hflat', rfl⟩ := Document.generate_ok_iff.1 h'
  obtain ⟨b, hdeclared, hpaths⟩ := Document.resolve_adding hflat hflat'
  refine ⟨fun hon => ?_, fun hoff => Document.assemble_congr hoff hpaths⟩
  obtain ⟨extra, hextra⟩ := Document.assemble_concat o hdeclared
  refine ⟨(flat.assemble (o.only .components)).1, extra, (flat.assemble { o with components := false }).1,
    Document.generate_ok_iff.2 ⟨flat, hflat, rfl⟩, Document.generate_ok_iff.2 ⟨flat', hflat', hextra⟩,
    Document.generate_ok_iff.2 ⟨flat, hflat, rfl⟩, Document.assemble_components hon flat, ?_⟩
  rw [Document.assemble_components hon, hextra, Document.assemble_congr rfl hpaths, List.append_assoc,
    List.singleton_append]

/-- A named schema, and an operation with a query parameter. -/
def pets : Document where
  schemas := some ⟨[("pet", .inline { type := some (.one "string") })], List.nodup_singleton _⟩
  paths := ⟨[("/pets", { operation := .build fun
    | .get => some {
        operationId := some "pet"
        parameters := [.inline { name := "x", location := .query, schema := some (.reference "pet") }] }
    | _ => none })], List.nodup_singleton _⟩

/-- A schema whose name is that of another one up to a capital gets a number, and the statement of the operation stays
as it is. -/
theorem generate_adding_capital : "Pet" ∉ Entries.names pets.declared ∧
    ∃ before after components extra others, (pets.generate {}).1 = .ok before ∧
      ((pets.adding "Pet" (.reference "pet") (by decide)).generate {}).1 = .ok after ∧
      before = components ++ others ∧ after = components ++ extra :: others ∧
      before.map Statement.identifier = ["schemaPet", "queryPet"] ∧
      after.map Statement.identifier = ["schemaPet", "schemaPet2", "queryPet"] := by
  have h : List.map Statement.identifier <$> (pets.generate {}).1 = .ok ["schemaPet", "queryPet"] := by
    decide +kernel
  have h' : List.map Statement.identifier <$>
      ((pets.adding "Pet" (.reference "pet") (by decide)).generate {}).1 =
        .ok ["schemaPet", "schemaPet2", "queryPet"] := by
    decide +kernel
  obtain ⟨before, hbefore, hnames⟩ := map_ok_iff.1 h
  obtain ⟨after, hafter, hnames'⟩ := map_ok_iff.1 h'
  obtain ⟨components, extra, others, -, -, -, hsplit, hsplit'⟩ :=
    (Document.generate_adding (by decide) (.reference "pet") hbefore hafter).1 rfl
  exact ⟨by decide, before, after, components, extra, others, hbefore, hafter, hsplit, hsplit', hnames, hnames'⟩

end ApiValidators
