import ApiValidators.Document.Validation
import ApiValidators.Proofs.Module.Endpoints

/-!
# Own parameters of an operation

What an operation's own parameters do to the object made for it. An own parameter takes the place of the first shared
entry of its name and location and of that one only. So of each name the object has one member, and that is given by the
last own parameter together with the further shared ones (`PathItem.rivals`): the last of all of them gives the schema,
and each can require the member (`generate_own_parameters`). Where a path shares no name twice, own parameters have no
rivals and their say is final.
-/

namespace ApiValidators

/-! ## What an operation says last -/

/-- An operation's own list has a parameter as the last one of its name and location, and it has a schema. -/
structure Operation.Settles (o : Operation) (p : Parameter) (s : Schema) : Prop where
  last : (o.parameters.filter (ParameterEntry.clashes p)).getLast? = some (.inline p)
  schema : p.schema = some s

/-- The shared parameters of the name and location of an own one that count beside it: those behind the first entry. -/
def PathItem.rivals (item : PathItem) (p : Parameter) : List (Parameter × Schema) :=
  (item.parameters.filter (ParameterEntry.clashes p)).tail.filterMap ParameterEntry.usable

/-- Where a path shares a name and location once at most, an own parameter has no rivals. -/
theorem PathItem.rivals_eq_nil {item : PathItem} {p : Parameter}
    (h : (item.parameters.filter (ParameterEntry.clashes p)).length ≤ 1) : item.rivals p = [] := by
  have htail : (item.parameters.filter (ParameterEntry.clashes p)).tail = [] := by
    rw [← List.length_eq_zero_iff, List.length_tail]
    omega
  rw [rivals, htail, List.filterMap_nil]

/-- Parameters that count, chosen by name and location, are the chosen entries as far as they count. -/
theorem Endpoint.filter_located (e : Endpoint) (p : Parameter) :
    (e.located p.location).filter (fun q => q.1.name == p.name) =
      ((e.item.entriesOf e.operation).filter (ParameterEntry.clashes p)).filterMap ParameterEntry.usable := by
  rw [located, parameters, List.filter_filter, List.filter_filterMap, List.filterMap_filter]
  refine List.filterMap_congr fun entry _ => ?_
  cases entry with
  | reference pointer => rfl
  | inline q => cases hq : q.schema <;> simp [ParameterEntry.usable, ParameterEntry.clashes, hq, Option.filter]

/-- **An own parameter and its rivals** are all parameters that count under its name and location. -/
theorem Endpoint.filter_located_of_settles {e : Endpoint} {p : Parameter} {s : Schema}
    (h : e.operation.Settles p s) :
    (e.located p.location).filter (fun q => q.1.name == p.name) = (p, s) :: e.item.rivals p := by
  have husable : ParameterEntry.usable (.inline p) = some (p, s) := by
    rw [ParameterEntry.usable, h.schema, Option.map_some]
  rw [e.filter_located, PathItem.filter_entriesOf, h.last, List.filterMap_cons_some husable]
  rfl

/-! ## Resolving and overriding -/

section

variable {R : Schema → Body Schema → Prop}

namespace ParameterEntry

theorem Rel.alike {e e' f f' : ParameterEntry} (he : e.Rel R e') (hf : f.Rel R f') : e'.alike f' = e.alike f := by
  cases he <;> cases hf <;> rfl

/-- Which entry is overridden does not depend on schemas. -/
theorem Rel.override {e e' : ParameterEntry} (he : e.Rel R e') {l l' : List ParameterEntry}
    (hl : List.Forall₂ (Rel R) l l') : List.Forall₂ (Rel R) (e.override l) (e'.override l') := by
  induction hl with
  | nil =>
    rw [override_nil, override_nil]
    exact .cons he .nil
  | @cons f f' l l' hf hl ih =>
    have halike : f'.alike e' = f.alike e := hf.alike he
    cases h : f.alike e with
    | true =>
      rw [override_cons_of_alike h, override_cons_of_alike (halike.trans h)]
      exact .cons he hl
    | false =>
      rw [override_cons_of_not_alike h, override_cons_of_not_alike (halike.trans h)]
      exact .cons hf ih

end ParameterEntry

/-- A parameter that counts, and the same one resolved. -/
def Parameter.Rel (R : Schema → Body Schema → Prop) (e e' : Parameter × Schema) : Prop :=
  ∃ b, R e.2 b ∧ e' = ({ e.1 with schema := some (.inline b) }, .inline b)

theorem ParameterEntry.Rel.usable {e e' : ParameterEntry} (h : e.Rel R e') :
    Option.Rel (Parameter.Rel R) e.usable e'.usable := by
  cases h with
  | reference pointer => exact .none
  | @bare p hp =>
    rw [ParameterEntry.usable, hp]
    exact .none
  | @schema p s b hp hs =>
    rw [ParameterEntry.usable, hp]
    exact .some ⟨b, hs, rfl⟩

theorem Operation.Rel.sourceName {o o' : Operation} (h : o.Rel R o') (method : Method) (path : String) :
    o'.sourceName method path = o.sourceName method path := by
  rw [Operation.sourceName, Operation.sourceName, h.operationId]

/-- An operation at its place, and the same one resolved. -/
structure Endpoint.Rel (R : Schema → Body Schema → Prop) (e e' : Endpoint) : Prop where
  item : e.item.Rel R e'.item
  operation : e.operation.Rel R e'.operation

theorem Document.Rel.endpoints {C : String → Body Schema → Prop} {d d' : Document} (h : d.Rel C R d') :
    List.Forall₂ (fun e e' => e'.sourceName = e.sourceName ∧ Endpoint.Rel R e e') d.endpoints d'.endpoints := by
  refine List.rel_flatMap h.paths ?_
  rintro ⟨path, item⟩ ⟨_, item'⟩ ⟨rfl, hitem⟩
  refine List.rel_map ?_ hitem.operations
  rintro ⟨method, o⟩ ⟨_, o'⟩ ⟨rfl, ho⟩
  exact ⟨Operation.Rel.sourceName ho .., hitem, ho⟩

theorem Endpoint.Rel.located {e e' : Endpoint} (h : e.Rel R e') (location : Location) :
    List.Forall₂ (Parameter.Rel R) (e.located location) (e'.located location) := by
  have hentries : List.Forall₂ (ParameterEntry.Rel R) (e.item.entriesOf e.operation)
      (e'.item.entriesOf e'.operation) :=
    List.rel_foldl (fun _ _ hl _ _ he => he.override hl) h.item.parameters h.operation.parameters
  refine List.rel_filter ?_ (List.rel_filterMap (fun _ _ he => he.usable) hentries)
  rintro e _ ⟨b, -, rfl⟩
  exact Iff.rfl

theorem Document.Rel.served_named {C : String → Body Schema → Prop} {d d' : Document} (h : d.Rel C R d')
    (location : Location) : List.Forall₂ (fun e e' => e'.sourceName = e.sourceName ∧ Endpoint.Rel R e e')
      (d.served location) (d'.served location) :=
  List.rel_filter (fun _ _ he => by simp only [isEmpty_of_forall₂ (he.2.located location)]) h.endpoints

theorem Document.Rel.served {C : String → Body Schema → Prop} {d d' : Document} (h : d.Rel C R d')
    (location : Location) : List.Forall₂ (Endpoint.Rel R) (d.served location) (d'.served location) :=
  (h.served_named location).imp fun _ _ => And.right

end

/-! ## Statements -/

/-- The member of a name that parameters give: the last one gives the schema, resolved and with its description in place
of a missing one, and each of them can require the member. -/
def Document.Gives (d : Document) (mode : NullableMode) (name : String) (parameters : List (Parameter × Schema))
    (m : Member Expr) : Prop :=
  ∃ p s b, parameters.getLast? = some (p, s) ∧ ((Resolver.resolve d.declared s).run.run {}).1 = .ok b ∧
    m = ((Schema.inline b).describedBy p.description).member mode (parameters.any fun q => q.1.required) name

/-- Of a name among parameters, the resolved ones give one member. -/
theorem Document.exists_gives {d : Document} {parameters resolved : List (Parameter × Schema)}
    (h : List.Forall₂ (Parameter.Rel fun s b => Substitution.resolve d.declared s = .ok b) parameters resolved)
    {name : String} {e : Parameter × Schema} {named : List (Parameter × Schema)}
    (hname : parameters.filter (fun q => q.1.name == name) = e :: named) (mode : NullableMode) :
    ∃ m, (Parameter.members mode resolved).filter (fun m => m.name == name) = [m] ∧
      d.Gives mode name (e :: named) m := by
  have hnamed : List.Forall₂ (Parameter.Rel fun s b => Substitution.resolve d.declared s = .ok b) (e :: named)
      (resolved.filter fun q => q.1.name == name) := by
    rw [← hname]
    refine List.rel_filter ?_ h
    rintro q _ ⟨b, -, rfl⟩
    exact Iff.rfl
  obtain ⟨⟨q, t⟩, hq⟩ : ∃ q, (e :: named).getLast? = some q := ⟨_, List.getLast?_cons⟩
  obtain ⟨b, hb, hlast⟩ : ∃ b, Substitution.resolve d.declared t = .ok b ∧
      (resolved.filter fun q => q.1.name == name).getLast? =
        some ({ q with schema := some (.inline b) }, .inline b) := by
    have hrel := getLast?_of_forall₂ hnamed
    rw [hq] at hrel
    generalize (resolved.filter fun q => q.1.name == name).getLast? = last at hrel ⊢
    cases hrel with
    | some hrel =>
      obtain ⟨b, hb, rfl⟩ := hrel
      exact ⟨b, hb, rfl⟩
  refine ⟨_, Parameter.filter_members mode hlast, q, t, b, hq, ?_, ?_⟩
  · rw [(Resolver.resolve_lockstep t {} Progress.known_empty).1]
    exact hb
  · rw [any_of_forall₂ hnamed]
    rintro q _ ⟨b, -, rfl⟩
    rfl

theorem Document.mem_served {d : Document} {e : Endpoint} (he : e ∈ d.endpoints) {p : Parameter} {s : Schema}
    (h : e.operation.Settles p s) : e ∈ d.served p.location := by
  have hmem : (p, s) ∈ e.located p.location :=
    List.mem_of_mem_filter (Endpoint.filter_located_of_settles h ▸ List.mem_cons_self)
  refine List.mem_filter.2 ⟨he, ?_⟩
  simp [List.ne_nil_of_mem hmem]

/-- **Own parameters and their rivals.** An operation with a parameter of its own that counts at a location has a
statement there, and for each such parameter that is the last of its name and location the object of the statement has
exactly one member: the one that the parameter and its rivals give, which is its own where it has no rivals. -/
theorem Document.generate_own_parameters {o : Options} {d : Document} {statements : List Statement}
    (h : (d.generate o).1 = .ok statements) :
    ∃ own : Section → List Statement, (∀ part, (d.generate (o.only part)).1 = .ok (own part)) ∧
      statements = o.sections.flatMap own ∧
      ∀ location part, location.section? = some part →
        (∀ e ∈ d.endpoints, ∀ p s, e.operation.Settles p s → p.location = location → e ∈ d.served location) ∧
        List.Forall₂ (fun e statement => ∃ members, statement.expression = .ofBase (.object members) ∧
            ∀ p s, e.operation.Settles p s → p.location = location →
              ∃ m, members.filter (fun m => m.name == p.name) = [m] ∧
                d.Gives o.mode p.name ((p, s) :: e.item.rivals p) m)
          (d.served location) (own part) := by
  obtain ⟨flat, hflat, rfl⟩ := Document.generate_ok_iff.1 h
  have hrel := Document.rel_of_resolve hflat
  refine ⟨fun part => part.statements [] (part.drafts o.mode flat), Document.generate_only hflat o,
    Document.assemble_eq_sections o flat, fun location part hpart => ⟨fun e he p s hsettles hp => ?_, ?_⟩⟩
  · subst hp
    exact Document.mem_served he hsettles
  · refine (forall₂_comp (hrel.served location) (part.forall₂_statements o.mode flat hpart [])).imp ?_
    rintro e statement ⟨e', he, hstatement⟩
    refine ⟨_, hstatement.trans (Parameter.build_object o.mode _), fun p s hsettles hp => ?_⟩
    subst hp
    exact Document.exists_gives (he.located p.location) (Endpoint.filter_located_of_settles hsettles) o.mode

def Parameter.limit (type : String) (required : Bool) : Parameter where
  name := "limit"
  location := .query
  required := required
  schema := some (.inline { type := some (.one type) })

/-- A path that shares a parameter twice, and an operation with one of its own under the same name. -/
def overruled : Document where
  openapi := some "3.0.0"
  paths := ⟨[("/pets", {
    operation := .build fun
      | .get => some { operationId := some "list", parameters := [.inline (.limit "integer" false)] }
      | _ => none
    parameters := [.inline (.limit "string" false), .inline (.limit "boolean" true)] })], List.nodup_singleton _⟩

/-- The own parameter has a rival, and the two give the member together. -/
theorem generate_own_parameters_overruled : ∃ statements, (overruled.generate {}).1 = .ok statements ∧
    ∃ s ∈ statements, ∃ members, s.expression = .ofBase (.object members) ∧
      ∃ m, members.filter (fun m => m.name == "limit") = [m] ∧
        overruled.Gives .nullish "limit" [(.limit "integer" false, .inline { type := some (.one "integer") }),
          (.limit "boolean" true, .inline { type := some (.one "boolean") })] m := by
  have h : (overruled.generate {}).1 = .ok (overruled.assemble {}).1 := rfl
  obtain ⟨own, -, hown, hat⟩ := Document.generate_own_parameters h
  obtain ⟨e, hserved, hsettles, hrivals⟩ : ∃ e, overruled.served .query = [e] ∧
      e.operation.Settles (.limit "integer" false) (.inline { type := some (.one "integer") }) ∧
      e.item.rivals (.limit "integer" false) =
        [(.limit "boolean" true, .inline { type := some (.one "boolean") })] := ⟨_, rfl, ⟨rfl, rfl⟩, rfl⟩
  have hmembers := (hat .query .queries rfl).2
  rw [hserved] at hmembers
  obtain ⟨s, _, ⟨members, hexpression, hmember⟩, -, hqueries⟩ := List.forall₂_cons_left_iff.1 hmembers
  have hs : s ∈ (overruled.assemble {}).1 := by
    rw [hown]
    exact List.mem_flatMap.2 ⟨.queries, by decide, hqueries ▸ List.mem_cons_self⟩
  have hgives := hmember (.limit "integer" false) _ hsettles rfl
  rw [hrivals] at hgives
  exact ⟨_, h, s, hs, members, hexpression, hgives⟩

/-- The own parameter alone does not give the member, though nothing is wrong with the document. -/
theorem overruled_not_own : overruled.problems = [] ∧
    (∃ e ∈ overruled.endpoints,
      e.operation.Settles (.limit "integer" false) (.inline { type := some (.one "integer") })) ∧
    ∃ statements, (overruled.generate {}).1 = .ok statements ∧
      ∀ s ∈ statements, ∀ members, s.expression = .ofBase (.object members) →
        ¬ ∃ m, members.filter (fun m => m.name == "limit") = [m] ∧ overruled.Gives .nullish "limit"
          [(.limit "integer" false, .inline { type := some (.one "integer") })] m := by
  refine ⟨rfl, ⟨_, List.mem_cons_self, rfl, rfl⟩,
    [⟨"queryList", .ofBase (.object [⟨"limit", .ofBase .boolean, none⟩]), none, some .queries⟩], rfl, ?_⟩
  intro s hs members hmembers
  cases List.mem_singleton.1 hs
  cases hmembers
  rintro ⟨m, hm, p, t, b, hlast, hb, rfl⟩
  cases hlast
  cases hb
  cases hm

end ApiValidators
