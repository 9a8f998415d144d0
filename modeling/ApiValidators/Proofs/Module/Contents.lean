import ApiValidators.Proofs.Module.OwnParameters

/-!
# The contents of a module

What a module consists of, statement by statement. A section has one statement for each thing it is made from, in their
order and under the names claimed for them, and only its first one is marked (`Section.Lists`). The component section is
made from the named schemas; the other two are made from the operations that have parameters at their location, and the
members of such a statement are the names of those parameters, each where it comes first (`Parameter.names_members`). An
enabled section stands in the module whole, and nothing else stands there (`generate_contents`).
-/

namespace ApiValidators

open Naming

/-! ## Members -/

/-- The object for parameters has a member for each name among them, in the order in which the names come first. -/
theorem Parameter.names_members (mode : NullableMode) (parameters : List (Parameter × Schema)) :
    (members mode parameters).map Member.name = (parameters.map fun q => q.1.name).eraseDups := by
  have hproperties : Entries.names (properties parameters) = (parameters.map fun q => q.1.name).eraseDups := by
    rw [properties, Entries.names_collect, Entries.names, List.map_map]
    rfl
  rw [← hproperties, members, List.map_map]
  rfl

/-! ## Sections -/

theorem Section.opens_statements {part : Section} {taken : List String} {drafts : List Draft} {i : Nat} {s : Statement}
    (h : (part.statements taken drafts)[i]? = some s) : s.opens = if i = 0 then some part else none := by
  simp only [Section.statements, List.getElem?_map, List.getElem?_zipIdx, Nat.zero_add, Option.map_map] at h
  obtain ⟨⟨draft, claim⟩, -, rfl⟩ := Option.map_eq_some_iff.1 h
  rfl

/-- The statements of a section that is made from sources: one for each of them, under the names claimed for theirs. -/
structure Section.Lists {α : Type} (part : Section) (name : α → String) (describes : α → Statement → Prop)
    (sources : List α) (statements : List Statement) : Prop where
  identifiers : statements.map Statement.identifier =
    (claimAll [] (sources.map fun a => exportName part.kind (name a))).map Claim.name
  described : List.Forall₂ describes sources statements
  opens : ∀ i s, statements[i]? = some s → s.opens = if i = 0 then some part else none

/-- The draft for a source: it asks for the source's name, and its statement is as the source says. -/
structure Section.Drafts {α : Type} (part : Section) (name : α → String) (describes : α → Statement → Prop) (a : α)
    (draft : Draft) : Prop where
  identifier : draft.identifier = exportName part.kind (name a)
  described (s : Statement) : s.expression = draft.expression → s.comment = draft.comment → describes a s

theorem Section.lists_statements {α : Type} {part : Section} {name : α → String} {describes : α → Statement → Prop}
    {sources : List α} {drafts : List Draft} (h : List.Forall₂ (part.Drafts name describes) sources drafts) :
    part.Lists name describes sources (part.statements [] drafts) where
  identifiers := by
    have hnames : drafts.map Draft.identifier = sources.map fun a => exportName part.kind (name a) :=
      map_of_forall₂ h fun _ _ hd => hd.identifier
    rw [part.map_identifier_statements, hnames]
  described := by
    refine (forall₂_comp h (part.forall₂_drafts [] drafts)).imp ?_
    rintro a s ⟨draft, hdraft, hexpression, hcomment⟩
    exact hdraft.described s hexpression hcomment
  opens _ _ := Section.opens_statements

/-! ## Statements -/

/-- The statement of a named schema: what the name stands for, built as required, and the comment of that. -/
def Document.ComponentStatement (d : Document) (mode : NullableMode) (e : String × Schema) (s : Statement) : Prop :=
  ∃ b, ((Resolver.component d.declared e.1).run.run {}).1 = .ok b ∧
    s.expression = (Schema.inline b).build mode true ∧ s.comment = b.description.bind Remark.comment

/-- The statement of an operation at a location: an object with a member for each name among its parameters there, in
the order in which the names come first, each given by the parameters of its name. -/
def Document.OperationStatement (d : Document) (mode : NullableMode) (location : Location) (e : Endpoint)
    (s : Statement) : Prop :=
  s.comment = none ∧ ∃ members, s.expression = .ofBase (.object members) ∧
    members.map Member.name = ((e.located location).map fun q => q.1.name).eraseDups ∧
    ∀ m ∈ members, d.Gives mode m.name ((e.located location).filter fun q => q.1.name == m.name) m

theorem Document.forall₂_componentDrafts {d flat : Document} (h : d.resolve.1 = .ok flat) (mode : NullableMode) :
    List.Forall₂ (Section.components.Drafts Prod.fst (d.ComponentStatement mode)) d.declared
      (Section.components.drafts mode flat) := by
  refine List.forall₂_map_right_iff.2 ((Document.rel_of_resolve h).declared.imp ?_)
  rintro e ⟨_, _⟩ ⟨rfl, b, hb, rfl⟩
  have hresolved : ((Resolver.component d.declared e.1).run.run {}).1 = .ok b :=
    (Resolver.component_lockstep e.1 {} Progress.known_empty).1.trans hb
  exact ⟨rfl, fun s hexpression hcomment => ⟨b, hresolved, hexpression, hcomment⟩⟩

theorem Parameter.Rel.names {R : Schema → Body Schema → Prop} {parameters resolved : List (Parameter × Schema)}
    (h : List.Forall₂ (Parameter.Rel R) parameters resolved) :
    resolved.map (fun q => q.1.name) = parameters.map fun q => q.1.name := by
  refine map_of_forall₂ h ?_
  rintro q _ ⟨b, -, rfl⟩
  rfl

/-- The members of an operation's statement are given by its parameters. -/
theorem Document.gives_of_mem_members {d : Document} {parameters resolved : List (Parameter × Schema)}
    (h : List.Forall₂ (Parameter.Rel fun s b => Substitution.resolve d.declared s = .ok b) parameters resolved)
    {mode : NullableMode} {m : Member Expr} (hm : m ∈ Parameter.members mode resolved) :
    d.Gives mode m.name (parameters.filter fun q => q.1.name == m.name) m := by
  have hname : m.name ∈ parameters.map fun q => q.1.name := by
    rw [← Parameter.Rel.names h, ← List.mem_eraseDups, ← Parameter.names_members mode]
    exact List.mem_map_of_mem hm
  obtain ⟨e, he, hename⟩ := List.mem_map.1 hname
  have hne : parameters.filter (fun q => q.1.name == m.name) ≠ [] :=
    List.ne_nil_of_mem (List.mem_filter.2 ⟨he, by simp [hename]⟩)
  obtain ⟨first, named, hfilter⟩ := List.exists_cons_of_ne_nil hne
  obtain ⟨m', honly, hgives⟩ := Document.exists_gives h hfilter mode
  -- a name has one member, so the one it has is this one
  have hmem : m ∈ (Parameter.members mode resolved).filter fun n => n.name == m.name :=
    List.mem_filter.2 ⟨hm, beq_self_eq_true _⟩
  rw [honly, List.mem_singleton] at hmem
  rw [hfilter, hmem]
  rwa [hmem] at hgives

theorem Document.forall₂_operationDrafts {d flat : Document} (h : d.resolve.1 = .ok flat) (mode : NullableMode)
    {part : Section} {location : Location} (hpart : location.section? = some part) :
    List.Forall₂ (part.Drafts Endpoint.sourceName (d.OperationStatement mode location)) (d.served location)
      (part.drafts mode flat) := by
  rw [part.drafts_endpoints mode flat hpart, List.forall₂_map_right_iff]
  refine ((Document.rel_of_resolve h).served_named location).imp ?_
  rintro e e' ⟨hname, he⟩
  have hlocated := he.located location
  have hnames : (Parameter.members mode (e'.located location)).map Member.name =
      ((e.located location).map fun q => q.1.name).eraseDups := by
    rw [Parameter.names_members, Parameter.Rel.names hlocated]
  exact ⟨congrArg (exportName part.kind) hname, fun s hexpression hcomment => ⟨hcomment, _,
    hexpression.trans (Parameter.build_object mode _), hnames, fun m hm => Document.gives_of_mem_members hlocated hm⟩⟩

/-! ## Runs -/

/-- **What stands in a module.** Where they are enabled, the named schemas have a statement each, in their order; then,
operation after operation, come those with parameters that count in the path, and then those with parameters that count
in the query. Each statement tells what it is made from, and nothing else stands there. -/
theorem Document.generate_contents {d : Document} {o : Options} {statements : List Statement}
    (h : (d.generate o).1 = .ok statements) :
    ∃ components paths queries,
      statements = (if o.components then components else []) ++ (if o.paths then paths else []) ++
        (if o.queries then queries else []) ∧
      Section.components.Lists Prod.fst (d.ComponentStatement o.mode) d.declared components ∧
      Section.paths.Lists Endpoint.sourceName (d.OperationStatement o.mode .path) (d.served .path) paths ∧
      Section.queries.Lists Endpoint.sourceName (d.OperationStatement o.mode .query) (d.served .query) queries := by
  obtain ⟨flat, hflat, rfl⟩ := Document.generate_ok_iff.1 h
  refine ⟨_, _, _, (Document.assemble_eq_sections o flat).trans (o.flatMap_sections _), ?_, ?_, ?_⟩
  · exact Section.lists_statements (Document.forall₂_componentDrafts hflat o.mode)
  · exact Section.lists_statements (Document.forall₂_operationDrafts hflat o.mode rfl)
  · exact Section.lists_statements (Document.forall₂_operationDrafts hflat o.mode rfl)

/-- Named schemas that differ in a capital, an operation that takes the name of another one, parameters that share a name
with another one or do not count, and an operation that is left with none. -/
def clinic : Document where
  schemas := some ⟨[("pet", .inline { type := some (.one "string"), description := some "a pet" }),
    ("Pet", .reference "pet")], by decide⟩
  paths := ⟨[
    ("/health", {
      operation := .build fun
        | .get => some { parameters := [
            .inline { name := "trace", location := .header, schema := some (.inline {}) },
            .inline { name := "verbose", location := .query },
            .reference "#/components/parameters/page"] }
        | _ => none }),
    ("/pets/{id}", {
      operation := .build fun
        | .put => some { operationId := some "Pet" }
        | .get => some {
            operationId := some "pet"
            parameters := [
              .inline { name := "page", location := .query, schema := some (.inline {}) },
              .inline { name := "limit", location := .query, schema := some (.reference "Pet") }] }
        | _ => none
      parameters := [
        .inline { name := "limit", location := .query, schema := some (.inline {}) },
        .inline { name := "id", location := .path, required := true, schema := some (.reference "pet") },
        .inline { name := "limit", location := .query, schema := some (.inline {}) }] })], by decide⟩

/-- Six statements are made, and the operation without parameters that count has none of them. -/
theorem generate_contents_clinic : ∃ pet pet' path path' query query' : Statement,
    (clinic.generate {}).1 = .ok [pet, pet', path, path', query, query'] ∧
    [pet, pet', path, path', query, query'].map Statement.identifier =
      ["schemaPet", "schemaPet2", "pathPet", "pathPet2", "queryPet", "queryPet2"] ∧
    [pet, pet', path, path', query, query'].map Statement.opens =
      [some .components, none, some .paths, none, some .queries, none] ∧
    ∃ members, query.expression = .ofBase (.object members) ∧ members.map Member.name = ["limit", "page"] := by
  obtain ⟨statements, h⟩ : ∃ statements, (clinic.generate {}).1 = .ok statements :=
    exists_ok_of_isOk (by decide +kernel)
  obtain ⟨components, paths, queries, hsplit, hcomponents, hpaths, hqueries⟩ := Document.generate_contents h
  obtain ⟨pet, pet', rfl⟩ : ∃ pet pet', components = [pet, pet'] :=
    List.length_eq_two.1 hcomponents.described.length_eq.symm
  obtain ⟨path, path', rfl⟩ : ∃ path path', paths = [path, path'] := by
    have htwo : (clinic.served .path).length = 2 := by decide +kernel
    exact List.length_eq_two.1 (hpaths.described.length_eq.symm.trans htwo)
  obtain ⟨query, query', rfl⟩ : ∃ query query', queries = [query, query'] := by
    have htwo : (clinic.served .query).length = 2 := by decide +kernel
    exact List.length_eq_two.1 (hqueries.described.length_eq.symm.trans htwo)
  have hidentifiers : [pet, pet', path, path', query, query'].map Statement.identifier =
      ["schemaPet", "schemaPet2"] ++ ["pathPet", "pathPet2"] ++ ["queryPet", "queryPet2"] := by
    have hpet : [pet, pet'].map Statement.identifier = ["schemaPet", "schemaPet2"] :=
      hcomponents.identifiers.trans (by decide +kernel)
    have hpath : [path, path'].map Statement.identifier = ["pathPet", "pathPet2"] :=
      hpaths.identifiers.trans (by decide +kernel)
    have hquery : [query, query'].map Statement.identifier = ["queryPet", "queryPet2"] :=
      hqueries.identifiers.trans (by decide +kernel)
    rw [← hpet, ← hpath, ← hquery]
    rfl
  have hopens : [pet, pet', path, path', query, query'].map Statement.opens =
      [some .components, none, some .paths, none, some .queries, none] := by
    simp only [List.map_cons, List.map_nil, hcomponents.opens 0 pet rfl, hcomponents.opens 1 pet' rfl,
      hpaths.opens 0 path rfl, hpaths.opens 1 path' rfl, hqueries.opens 0 query rfl, hqueries.opens 1 query' rfl]
    rfl
  obtain ⟨e, es, ⟨-, members, hexpression, hmembers, -⟩, -, hserved⟩ :=
    List.forall₂_cons_right_iff.1 hqueries.described
  have hqueried : (clinic.served .query).map (fun e => ((e.located .query).map fun q => q.1.name).eraseDups) =
      [["limit", "page"], ["limit"]] := by decide +kernel
  rw [hserved, List.map_cons] at hqueried
  exact ⟨pet, pet', path, path', query, query', h.trans (congrArg _ hsplit), hidentifiers, hopens, members, hexpression,
    hmembers.trans (List.cons.inj hqueried).1⟩

end ApiValidators
