import ApiValidators.Module.Assembly
import ApiValidators.Proofs.References.Resolved

/-!
# Addresses of named schemas

A named schema is reached in two ways: by its name, as the statements for named schemas are made, and by the pointer to
its name, as everything else refers to it. A pointer is cut at its last slash, so the two come to the same for names
without a slash: such a name is what the pointer to it ends in (`name_append_slash`), and which pointer led to a declared
name makes no difference (`run_named_congr`). The pointer to a name with a slash ends in something else, and a reference
there is one to that name, if there is such a one (`refers_of_declared`).
-/

namespace ApiValidators

open Naming

/-! ## Pointers to names -/

namespace Pointer

theorem name_append_slash (before : String) {last : String} (h : '/' ∉ last.toList) :
    name (before ++ "/" ++ last) = last := by
  have hlast : ∀ c ∈ last.toList.reverse, (c != '/') = true := by
    intro c hc
    rw [List.mem_reverse] at hc
    exact bne_iff_ne.2 fun hslash => h (hslash ▸ hc)
  have hreverse : (before ++ "/" ++ last).toList.reverse = last.toList.reverse ++ '/' :: before.toList.reverse := by
    simp [String.toList_append]
  rw [name, hreverse, List.takeWhile_append_of_pos hlast, List.takeWhile_cons_of_neg (by simp), List.append_nil,
    List.reverse_reverse, String.ofList_toList]

theorem isHome_ofName (name : String) : isHome (ofName name) = true := by
  rw [isHome, ofName, String.append_assoc, String.toList_append, List.isPrefixOf_iff_prefix]
  exact List.prefix_append ..

end Pointer

/-! ## Runs -/

namespace Resolver

variable {declared : List (String × Schema)} {name : String}

theorem run_named_congr (h : name ∈ Entries.names declared) (pointer pointer' : String) (p : Progress) :
    (named declared [] name pointer).run.run p = (named declared [] name pointer').run.run p := by
  obtain ⟨s, hs⟩ := Entries.exists_get?_iff.2 h
  cases hk : Entries.get? name p.flattened with
  | some b => rw [named_of_remembered pointer hk, named_of_remembered pointer' hk]
  | none =>
    rw [named_of_get?_some pointer hk List.not_mem_nil hs, named_of_get?_some pointer' hk List.not_mem_nil hs]

theorem run_resolve_reference {pointer : String} (h : Pointer.isHome pointer = true) (p : Progress) :
    (resolve declared (.reference pointer)).run.run p =
      (named declared [] (Pointer.name pointer) pointer).run.run p := by
  have hwarn : (Resolution.warn (Warning.ofPointer pointer)).run.run p = (.ok (), p) := by
    have hrun : (Resolution.warn (Warning.ofPointer pointer)).run.run p =
        (.ok (), { p with warnings := p.warnings ++ Warning.ofPointer pointer }) := rfl
    rw [hrun, Warning.ofPointer, if_pos h, List.append_nil]
  exact Resolution.run_bind_of_ok hwarn

end Resolver

/-! ## References and names -/

/-- References with a pointer are to a name: whatever is known by then, resolving one does what resolving the name does,
and the validator of one is the identifier that the statement for the name asks for. -/
structure Document.Refers (d : Document) (pointer name : String) : Prop where
  resolved (p : Progress) : (Resolver.resolve d.declared (.reference pointer)).run.run p =
    (Resolver.component d.declared name).run.run p
  built (mode : NullableMode) (required : Bool) (s : Schema) :
    (Schema.reference pointer).build mode required = .identifier (Draft.component mode name s).identifier

/-- References are to the declared name that their pointer ends in. -/
theorem Document.refers_of_name {d : Document} {pointer name : String} (h : name ∈ Entries.names d.declared)
    (hhome : Pointer.isHome pointer = true) (hname : Pointer.name pointer = name) : d.Refers pointer name where
  resolved p := by
    rw [Resolver.run_resolve_reference hhome, hname, Resolver.component]
    exact Resolver.run_named_congr h ..
  built mode required s := by
    rw [Schema.build, Pointer.statementName, hname]
    rfl

/-- **A named schema is reached by the pointer to its name** exactly as by the name, where the name has no slash. Where
it has one, the pointer is taken to end in what follows the last slash: if that is declared it is what is reached, and
else nothing is. -/
theorem Document.refers_of_declared {d : Document} {name : String} (h : name ∈ Entries.names d.declared) :
    ('/' ∉ name.toList → d.Refers (Pointer.ofName name) name) ∧
    ∀ before last, name = before ++ "/" ++ last → '/' ∉ last.toList →
      (last ∈ Entries.names d.declared → d.Refers (Pointer.ofName name) last) ∧
      (last ∉ Entries.names d.declared →
        ((Resolver.resolve d.declared (.reference (Pointer.ofName name))).run.run {}).1 =
          .error (.notFound (Pointer.ofName name)) ∧
        ∀ mode required, (Schema.reference (Pointer.ofName name)).build mode required =
          .identifier (exportName Section.components.kind last)) := by
  have hhome := Pointer.isHome_ofName name
  refine ⟨fun hslash => ?_, fun before last hsplit hslash => ?_⟩
  · exact Document.refers_of_name h hhome (Pointer.name_append_slash Pointer.home hslash)
  · -- the last slash of the pointer is that of the name, and not the one in front of it
    have hlast : Pointer.name (Pointer.ofName name) = last := by
      have hpointer : Pointer.ofName name = (Pointer.home ++ "/" ++ before) ++ "/" ++ last := by
        simp only [Pointer.ofName, hsplit, String.append_assoc]
      rw [hpointer]
      exact Pointer.name_append_slash _ hslash
    refine ⟨fun hdeclared => Document.refers_of_name hdeclared hhome hlast, fun hmissing => ⟨?_, ?_⟩⟩
    · have hnone : Entries.get? last d.declared = none := by
        rw [Option.eq_none_iff_forall_ne_some]
        exact fun s hs => hmissing (Entries.exists_get?_iff.1 ⟨s, hs⟩)
      rw [Resolver.run_resolve_reference hhome, hlast,
        Resolver.named_of_get?_none _ rfl List.not_mem_nil hnone]
    · intro mode required
      rw [Schema.build, Pointer.statementName, hlast]
      rfl

/-- A schema by itself, one whose name ends in the name of the first, and one whose name does not. -/
def menagerie : Document where
  schemas := some ⟨[("dog", .inline { type := some (.one "string") }),
    ("pets/dog", .inline { type := some (.one "integer") }),
    ("pets/cat", .inline { type := some (.one "boolean") })], by decide⟩

/-- The first is reached by its pointer, the pointer to the second reaches the first, and that to the third none. -/
theorem refers_of_declared_menagerie :
    menagerie.Refers "#/components/schemas/dog" "dog" ∧ menagerie.Refers "#/components/schemas/pets/dog" "dog" ∧
    ((Resolver.resolve menagerie.declared (.reference "#/components/schemas/pets/cat")).run.run {}).1 =
      .error (.notFound "#/components/schemas/pets/cat") ∧
    ∀ mode required,
      (Schema.reference "#/components/schemas/pets/cat").build mode required = .identifier "schemaCat" := by
  have hdog : menagerie.Refers (Pointer.ofName "dog") "dog" :=
    (Document.refers_of_declared (by decide)).1 (by decide)
  have hpetsDog : menagerie.Refers (Pointer.ofName "pets/dog") "dog" :=
    ((Document.refers_of_declared (by decide)).2 "pets" "dog" (by decide) (by decide)).1 (by decide)
  have hdeclared : "pets/cat" ∈ Entries.names menagerie.declared := by decide
  have hpetsCat := ((Document.refers_of_declared hdeclared).2 "pets" "cat" (by decide) (by decide)).2 (by decide)
  have hcat : exportName Section.components.kind "cat" = "schemaCat" := by decide +kernel
  rw [hcat] at hpetsCat
  exact ⟨hdog, hpetsDog, hpetsCat⟩

/-- The third schema resolves by its name and not by the pointer to it, and the pointer gives another identifier than its
statement asks for. -/
theorem menagerie_not_refers : "pets/cat" ∈ Entries.names menagerie.declared ∧
    ((Resolver.component menagerie.declared "pets/cat").run.run {}).1 = .ok { type := some (.one "boolean") } ∧
    ((Resolver.resolve menagerie.declared (.reference (Pointer.ofName "pets/cat"))).run.run {}).1 =
      .error (.notFound "#/components/schemas/pets/cat") ∧
    (∀ mode s, (Draft.component mode "pets/cat" s).identifier = "schemaPets_cat") ∧
    (∀ mode required,
      (Schema.reference (Pointer.ofName "pets/cat")).build mode required = .identifier "schemaCat") ∧
    ¬ menagerie.Refers (Pointer.ofName "pets/cat") "pets/cat" := by
  have hname : ((Resolver.component menagerie.declared "pets/cat").run.run {}).1 =
      .ok { type := some (.one "boolean") } := by
    rw [Resolver.component, Resolver.named_of_get?_some _ rfl List.not_mem_nil rfl]
    rfl
  have hpointer : ((Resolver.resolve menagerie.declared (.reference (Pointer.ofName "pets/cat"))).run.run {}).1 =
      .error (.notFound "#/components/schemas/pets/cat") := by
    rw [Resolver.run_resolve_reference (Pointer.isHome_ofName _),
      Resolver.named_of_get?_none _ rfl List.not_mem_nil rfl]
    rfl
  have hstatement : exportName Section.components.kind "pets/cat" = "schemaPets_cat" := by decide +kernel
  have hreference : Pointer.statementName (Pointer.ofName "pets/cat") = "schemaCat" := by decide +kernel
  refine ⟨by decide, hname, hpointer, fun _ _ => hstatement, fun _ _ => congrArg Expr.identifier hreference, ?_⟩
  intro h
  rw [h.resolved, hname] at hpointer
  cases hpointer

end ApiValidators
