import ApiValidators.Proofs.Module.Endpoints

/-!
# Modules stand on their own

No reference of a document is left in the module made from it: the statements are those of a document without
references, and a name that an expression starts from, at any depth, is a raw expression in a description of the
document (`generate_self_contained`). The descriptions of the resolved document are descriptions of the document itself,
since a reference gives way to what is declared; and building takes names from nowhere else.
-/

namespace ApiValidators

/-! ## Descriptions of a document -/

/-- A text is a description in a document: of a schema at any depth, or of a parameter. -/
inductive Document.Describes (d : Document) (text : String) : Prop where
  | schema {s : Schema} {b : Body Schema} : s ∈ d.schemaRoots → (Schema.inline b).Within s →
    b.description = some text → Describes d text
  | parameter {p : Parameter} : .inline p ∈ d.entries → p.description = some text → Describes d text

/-- The description among the keywords of a body, if there is one, is among certain texts. -/
def Keywords.DescribedIn (T : String → Prop) (k : Keywords) : Prop := ∀ text, k.description = some text → T text

/-- A name that an expression starts from is the raw expression in one of certain texts. -/
def Expr.NamedIn (T : String → Prop) (e : Expr) : Prop :=
  ∀ name, e.base = .named name → ∃ text, T text ∧ Remark.raw text = some name

variable {T : String → Prop}

/-! ## Names in expressions -/

theorem Expr.namedIn_of_raw {e : Expr} {k : Keywords} (hk : k.DescribedIn T)
    (h : ∀ name, e.base = .named name → k.description.bind Remark.raw = some name) : e.NamedIn T := by
  intro name hname
  obtain ⟨text, htext, hraw⟩ := Option.bind_eq_some_iff.1 (h name hname)
  exact ⟨text, hk text htext, hraw⟩

/-- **What is built from a flat schema names nothing but raw expressions** in its descriptions. -/
theorem Schema.Flat.namedIn_build {s : Schema} (h : s.Flat (Keywords.DescribedIn T)) (mode : NullableMode)
    (required : Bool) : (s.build mode required).All (Expr.NamedIn T) := by
  refine Schema.build_all (fun name hname => nomatch hname) (fun pointer hp => ?_) (fun b hb hbranches required => ?_)
    required
  · cases h.of_within hp
  · obtain ⟨hk, -⟩ := h.of_within hb
    rcases exists_or_forall_not fun expression => b.kind = .raw expression with ⟨expression, hraw⟩ | hraw
    · rw [build_inline_of_raw hraw]
      refine Expr.namedIn_of_raw hk fun name hname => ?_
      cases hname
      exact Body.raw_description_of_kind hraw
    · rw [build_inline_eq_chain hraw]
      -- the chain starts from what the merge point starts from: the body itself or a branch
      rcases (b.start mode).mergePoint_fst (b.allOf.map (build mode true)) with he | he
      · refine Expr.namedIn_of_raw hk fun name hname => ?_
        rw [Expr.base_chain, Body.mergePoint, he] at hname
        exact Body.raw_description_of_start hname
      · obtain ⟨t, ht, he⟩ := List.mem_map.1 he
        intro name hname
        rw [Expr.base_chain, Body.mergePoint, ← he] at hname
        exact hbranches t ht name hname

/-! ## Flat documents -/

/-- **A resolved document is flat**, and its descriptions are those of the document. -/
theorem Document.flat_of_resolve {d flat : Document} (h : d.resolve.1 = .ok flat) :
    ∀ s ∈ flat.schemaRoots, s.Flat (Keywords.DescribedIn d.Describes) :=
  Document.flat_schemaRoots h fun _ hs _ hb _ htext => .schema hs hb htext

theorem Document.describes_of_resolve {d flat : Document} (h : d.resolve.1 = .ok flat) {p : Parameter}
    (hp : .inline p ∈ flat.entries) {text : String} (htext : p.description = some text) : d.Describes text := by
  obtain ⟨original, horiginal, hentry⟩ := exists_of_forall₂ (Document.rel_of_resolve h).entries hp
  cases hentry with
  | bare => exact .parameter horiginal htext
  | schema => exact .parameter horiginal htext

theorem Schema.Flat.describedBy {s : Schema} (h : s.Flat (Keywords.DescribedIn T)) {description : Option String}
    (hdescription : ∀ text, description = some text → T text) :
    (s.describedBy description).Flat (Keywords.DescribedIn T) := by
  obtain @⟨b, hk, hbelow⟩ := h
  refine .inline (fun text htext => ?_) hbelow
  rcases Option.or_eq_some_iff.1 htext with hown | ⟨-, hgiven⟩
  · exact hk text hown
  · exact hdescription text hgiven

theorem Parameter.flat_object {parameters : List (Parameter × Schema)}
    (h : ∀ e ∈ parameters, e.2.Flat (Keywords.DescribedIn T) ∧ ∀ text, e.1.description = some text → T text) :
    (Schema.inline (object parameters)).Flat (Keywords.DescribedIn T) := by
  refine .inline (fun text htext => nomatch htext) fun s hs => ?_
  obtain ⟨e, he, rfl⟩ := List.mem_map.1 (hs : s ∈ (properties parameters).map Prod.snd)
  obtain ⟨⟨p, t⟩, hpt, rfl⟩ := List.mem_map.1 (Entries.mem_of_mem_collect he)
  obtain ⟨hflat, hdescription⟩ := h (p, t) hpt
  exact hflat.describedBy hdescription

theorem Document.flat_located {d flat : Document} (h : d.resolve.1 = .ok flat) {e : Endpoint} (he : e ∈ flat.endpoints)
    (location : Location) :
    (Schema.inline (Parameter.object (e.located location))).Flat (Keywords.DescribedIn d.Describes) := by
  refine Parameter.flat_object ?_
  rintro ⟨p, s⟩ hps
  obtain ⟨hentry, hschema⟩ := Endpoint.entry_of_mem_parameters he (List.mem_of_mem_filter hps)
  refine ⟨Document.flat_of_resolve h s (List.mem_append_right _ ?_), fun text => Document.describes_of_resolve h hentry⟩
  rw [Document.parameterSchemas_eq]
  exact List.mem_flatMap.2 ⟨_, hentry, ParameterEntry.mem_schemas.2 ⟨p, rfl, hschema⟩⟩

/-! ## Modules -/

/-- The expression of a statement is built from a named schema or from the object for parameters of an operation. -/
theorem Document.expression_of_mem_assemble {o : Options} {d : Document} {s : Statement} (h : s ∈ (d.assemble o).1) :
    (∃ e ∈ d.declared, s.expression = e.2.build o.mode true) ∨
    ∃ e ∈ d.endpoints, ∃ location,
      s.expression = (Schema.inline (Parameter.object (e.located location))).build o.mode true := by
  rw [Document.assemble_eq_sections] at h
  obtain ⟨part, -, h⟩ := List.mem_flatMap.1 h
  have hdraft := List.mem_map_of_mem (f := Statement.expression) h
  rw [part.map_expression_statements] at hdraft
  obtain ⟨draft, hdraft, hexpression⟩ := List.mem_map.1 hdraft
  have hendpoint : ∀ location : Location, location.section? = some part → ∃ e ∈ d.endpoints, ∃ location,
      s.expression = (Schema.inline (Parameter.object (e.located location))).build o.mode true := by
    intro location hpart
    rw [part.drafts_endpoints o.mode d hpart] at hdraft
    obtain ⟨e, he, rfl⟩ := List.mem_map.1 hdraft
    exact ⟨e, List.mem_of_mem_filter he, location, hexpression.symm⟩
  cases part with
  | components =>
    obtain ⟨e, he, rfl⟩ := List.mem_map.1 hdraft
    exact .inl ⟨e, he, hexpression.symm⟩
  | paths => exact .inr (hendpoint .path rfl)
  | queries => exact .inr (hendpoint .query rfl)

/-- **A module stands on its own.** Whichever sections are generated, the statements are those of a document without
references, and a name that an expression in a statement starts from, at any depth, is the raw expression in a
description of the document. -/
theorem Document.generate_self_contained {o : Options} {d : Document} {statements : List Statement}
    (h : (d.generate o).1 = .ok statements) :
    (∀ s ∈ statements, s.expression.All (Expr.NamedIn d.Describes)) ∧
    ∃ flat, d.resolve.1 = .ok flat ∧ (flat.assemble o).1 = statements ∧ ∀ s ∈ flat.schemaRoots, s.pointers = [] := by
  obtain ⟨flat, hflat, rfl⟩ := Document.generate_ok_iff.1 h
  have hroots := Document.flat_of_resolve hflat
  refine ⟨fun s hs => ?_, flat, hflat, rfl, fun s hs => (hroots s hs).pointers_eq_nil⟩
  rcases Document.expression_of_mem_assemble hs with ⟨e, he, hs⟩ | ⟨e, he, location, hs⟩
  · rw [hs]
    exact (hroots e.2 (List.mem_append_left _ (List.mem_map_of_mem he))).namedIn_build o.mode true
  · rw [hs]
    exact (Document.flat_located hflat he location).namedIn_build o.mode true

/-- An operation with two parameters: the schema of one has a branch with a raw expression and a default, the other one
has a raw expression in its own description. -/
def quotations : Document where
  paths := ⟨[("/pets", { operation := .build fun
    | .get => some { parameters := [
        .inline {
          name := "owner"
          location := .query
          schema := some (.inline {
            allOf := [.inline { description := some "An address. zod: Email" }]
            default := some (.string "none") }) },
        .inline {
          name := "page"
          location := .query
          schema := some (.inline {})
          description := some "zod: Page" }] }
    | _ => none })], List.nodup_singleton _⟩

/-- Two names in a module, one of them with modifiers called on it. -/
theorem generate_self_contained_quotations : ∃ statements, (quotations.generate {}).1 = .ok statements ∧
    (statements.flatMap fun s => s.expression.inner.map fun e => (e.base, e.modifierNames)) =
      [(.named "Email", ["default", "nullish"]), (.named "Page", [])] ∧
    ∀ s ∈ statements, s.expression.All (Expr.NamedIn quotations.Describes) := by
  have h : (quotations.generate {}).1 = .ok (quotations.assemble {}).1 := rfl
  exact ⟨_, h, rfl, (Document.generate_self_contained h).1⟩

end ApiValidators
