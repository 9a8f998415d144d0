import ApiValidators.Proofs.References.Resolved

/-!
# One more named schema

No reference of a document that resolves leads to a name that is not declared. So a schema that is added under a new
name is met by none of them: every schema goes on standing for what it stood for (`named_of_more`), and the resolved
document has one more named schema behind the others and is otherwise the same (`resolve_adding`).
-/

namespace ApiValidators

namespace Entries

variable {α : Type}

theorem nodup_names_concat {name : String} {v : α} {es : List (String × α)} (h : (names es).Nodup)
    (hnew : name ∉ names es) : (names (es ++ [(name, v)])).Nodup := by
  simp only [names, List.map_append, List.nodup_append, List.map_cons, List.map_nil, List.mem_singleton]
  exact ⟨h, by simp, fun k hk _ hn hkn => hnew (hn ▸ hkn ▸ hk)⟩

end Entries

/-- The document with a schema added behind its named schemas, under a new name. -/
def Document.adding (d : Document) (name : String) (s : Schema) (hnew : name ∉ Entries.names d.declared) :
    Document where
  openapi := d.openapi
  schemas := some ⟨d.declared ++ [(name, s)], Entries.nodup_names_concat d.nodup_declared hnew⟩
  paths := d.paths

/-- **Schemas that are added do not change what a name stands for.** -/
theorem Substitution.named_of_more {declared : List (String × Schema)} (more : List (String × Schema))
    {stack : List String} {name pointer : String} {b : Body Schema} (h : named declared stack name pointer = .ok b) :
    named (declared ++ more) stack name pointer = .ok b := by
  induction stack, name using stack_induction declared generalizing pointer b with
  | step stack name ih =>
  obtain ⟨hn, s, hg, h⟩ := exists_of_named h
  have hmore : Entries.get? name (declared ++ more) = some s := by rw [Entries.get?_append, hg, Option.some_or]
  rw [named_of_get?_some pointer hn hmore]
  exact Lockstep.answered.substitute (fun p hp _ hc => ih hn s hg _ (List.mem_map_of_mem hp) hc) b h

/-- **A schema that is added comes last in the resolved document**, which is otherwise the same. -/
theorem Document.resolve_adding {d flat flat' : Document} {name : String} {s : Schema}
    {hnew : name ∉ Entries.names d.declared} (h : d.resolve.1 = .ok flat)
    (h' : (d.adding name s hnew).resolve.1 = .ok flat') :
    ∃ b, flat'.declared = flat.declared ++ [(name, .inline b)] ∧ flat'.paths = flat.paths := by
  rw [Document.resolve_eq_substitute] at h h'
  -- the document resolves in the same way among more schemas, and both are compared there
  have hmore : d.mapSchemasM (Substitution.component (d.declared ++ [(name, s)]))
      (Substitution.resolve (d.declared ++ [(name, s)])) = .ok flat :=
    Lockstep.answered.document (fun n _ hb => Substitution.named_of_more _ hb)
      (fun t => Lockstep.answered.substitute fun p _ _ hb => Substitution.named_of_more _ hb) d flat h
  obtain ⟨bodies, items, hb, hi, rfl⟩ := Document.mapSchemasM_ok_iff.1 hmore
  obtain ⟨bodies', items', hb', hi', rfl⟩ := Document.mapSchemasM_ok_iff.1 h'
  cases hi.symm.trans hi'
  have hdeclared : (d.adding name s hnew).declared = d.declared ++ [(name, s)] := rfl
  obtain ⟨b, rfl⟩ : ∃ b, bodies' = bodies ++ [b] := by
    rw [hdeclared, Entries.names, List.map_append, List.mapM_append, bind_ok_iff] at hb'
    obtain ⟨_, hold, hb'⟩ := hb'
    obtain ⟨new, hadded, ⟨⟩⟩ := bind_ok_iff.1 hb'
    cases hold.symm.trans hb
    cases listMapM_ok_iff.1 hadded with
    | cons _ hrest =>
      cases hrest
      exact ⟨_, rfl⟩
  have hlen : d.declared.length = bodies.length := by
    simpa [Entries.names] using (listMapM_ok_iff.1 hb).length_eq
  refine ⟨b, ?_, rfl⟩
  rw [Document.declared_withValues, Document.declared_withValues, hdeclared, List.map_append,
    List.zipWith_append (by rw [hlen, List.length_map])]
  rfl

end ApiValidators
