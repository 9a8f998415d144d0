import ApiValidators.Document.Validation
import ApiValidators.Proofs.References.Resolved

/-!
# What validation finds

Validation goes through a document once and keeps the ids it has met. `Document.violations` lists what breaks a rule
without that: rule by rule, and for ids by looking at all earlier uses. Both give the same problems, each as often
(`problems_exact`), so that a document without problems is one that keeps every rule (`Document.Valid`). The ids that are
kept answer as all earlier uses do, since of these only the first counts (`get?_noteId`).
-/

namespace ApiValidators

/-- A parameter has a name, and is required where it is part of a path. -/
structure Parameter.WellFormed (p : Parameter) : Prop where
  named : p.name ≠ ""
  required : p.location = .path → p.required = true

/-! ## What the rules are about -/

/-- The operations of a path under their names in problems, in the order in which they are visited. -/
def PathItem.located (path : String) (item : PathItem) : List (String × Operation) :=
  item.operations.map fun (method, o) => (method.locate path, o)

/-- The id of an operation, if it has one, with the name of the operation. -/
def Operation.idUse (name : String) (o : Operation) : List (String × String) := (o.operationId.map (·, name)).toList

/-- The uses of ids in a document, in the order in which its operations are visited. -/
def Document.idUses (d : Document) : List (String × String) :=
  d.paths.entries.flatMap fun (path, item) => (item.located path).flatMap fun (name, o) => o.idUse name

/-- The entries of the lists of parameters of a path with the names of their owners. -/
def PathItem.owned (path : String) (item : PathItem) : List (String × ParameterEntry) :=
  ((item.located path).flatMap fun (name, o) => o.parameters.map (name, ·)) ++ item.parameters.map (path, ·)

def ParameterEntry.parameter? : ParameterEntry → Option Parameter
  | reference _ => none
  | inline p => some p

/-- The parameters given in place in a document, shared and own ones, with the names of their owners. -/
def Document.ownedParameters (d : Document) : List (String × Parameter) :=
  (d.paths.entries.flatMap fun (path, item) => item.owned path).filterMap fun (owner, e) => e.parameter?.map (owner, ·)

/-! ## The rules -/

namespace Problem

/-- Each path that does not start with a slash. -/
def unrooted (paths : List String) : List Problem :=
  (paths.filter fun path => path.toList.head? ≠ some '/').map unrootedPath

/-- Of uses of ids that come behind earlier ones each use of an id that was used before, with the operation that used it
first. -/
def repeats (earlier uses : List (String × String)) : List Problem :=
  (uses.mapIdx fun i (id, name) =>
    ((Entries.get? id (earlier ++ uses.take i)).map (repeatedId id name)).toList).flatten

/-- Each parameter without a name. -/
def unnamed (parameters : List (String × Parameter)) : List Problem :=
  (parameters.filter fun (_, p) => p.name = "").map fun (owner, _) => unnamedParameter owner

/-- Each parameter of a path that has a name and is not required. -/
def unrequired (parameters : List (String × Parameter)) : List Problem :=
  (parameters.filter fun (_, p) => p.name ≠ "" ∧ p.location = .path ∧ p.required = false).map fun (owner, p) =>
    optionalPathParameter p.name owner

end Problem

/-- Everything that breaks a rule, rule by rule. -/
def Document.violations (d : Document) : List Problem :=
  Problem.ofVersion d.openapi ++ Problem.unrooted d.paths.names ++ Problem.repeats [] d.idUses ++
    Problem.unnamed d.ownedParameters ++ Problem.unrequired d.ownedParameters

/-- A document that keeps every rule. -/
structure Document.Valid (d : Document) : Prop where
  version : ∃ version, d.openapi = some version ∧ ['3', '.'] <+: version.toList
  rooted : ∀ path ∈ d.paths.names, path.toList.head? = some '/'
  ids : (d.idUses.map Prod.fst).Nodup
  parameters : ∀ p, .inline p ∈ d.entries → p.WellFormed

/-! ## Ids -/

namespace Problem

variable {earlier used : List (String × String)}

theorem repeats_cons (earlier : List (String × String)) (use : String × String) (uses : List (String × String)) :
    repeats earlier (use :: uses) =
      ((Entries.get? use.1 earlier).map (repeatedId use.1 use.2)).toList ++ repeats (earlier ++ [use]) uses := by
  simp only [repeats, List.mapIdx_cons, List.flatten_cons, List.take_zero, List.append_nil, List.take_succ_cons,
    List.append_assoc, List.singleton_append]

theorem repeats_append (earlier uses more : List (String × String)) :
    repeats earlier (uses ++ more) = repeats earlier uses ++ repeats (earlier ++ uses) more := by
  induction uses generalizing earlier with
  | nil => rw [List.append_nil]; rfl
  | cons use uses ih => rw [List.cons_append, repeats_cons, repeats_cons, ih, List.append_assoc, List.append_assoc]; rfl

/-- Ids that are kept and answer as all earlier uses do give the same problem. -/
theorem ofId_eq (h : ∀ id, Entries.get? id used = Entries.get? id earlier) (name : String) (o : Operation) :
    ofId used name o.operationId = repeats earlier (o.idUse name) := by
  unfold Operation.idUse
  cases o.operationId with
  | none => rfl
  | some id =>
    rw [ofId, h id, Option.map_some, Option.toList_some, repeats_cons]
    cases Entries.get? id earlier <;> rfl

/-- No use is repeated exactly if no id is used twice, nor any that was used before. -/
theorem repeats_eq_nil_iff {uses : List (String × String)} :
    repeats earlier uses = [] ↔ (uses.map Prod.fst).Nodup ∧ ∀ use ∈ uses, use.1 ∉ Entries.names earlier := by
  induction uses generalizing earlier with
  | nil => simp [repeats]
  | cons use uses ih =>
    have hfirst : ((Entries.get? use.1 earlier).map (repeatedId use.1 use.2)).toList = [] ↔
        use.1 ∉ Entries.names earlier := by
      rw [← Entries.exists_get?_iff]
      cases Entries.get? use.1 earlier <;> simp
    have hnames : Entries.names (earlier ++ [use]) = Entries.names earlier ++ [use.1] := List.map_append
    rw [repeats_cons, List.append_eq_nil_iff, hfirst, ih, hnames, List.map_cons, List.nodup_cons]
    simp only [List.mem_append, List.mem_singleton, not_or, List.forall_mem_cons]
    constructor
    · rintro ⟨hnew, hnodup, hrest⟩
      refine ⟨⟨fun hmem => ?_, hnodup⟩, hnew, fun other hother => (hrest other hother).1⟩
      obtain ⟨other, hother, he⟩ := List.mem_map.1 hmem
      exact (hrest other hother).2 he
    · rintro ⟨⟨hfresh, hnodup⟩, hnew, hrest⟩
      refine ⟨hnew, hnodup, fun other hother => ⟨hrest other hother, fun he => hfresh ?_⟩⟩
      exact List.mem_map.2 ⟨other, hother, he⟩

/-- The operation that a repeated id is said to be used by is the first one that uses it. -/
theorem first_of_mem_repeats {uses : List (String × String)} {id name first : String}
    (h : repeatedId id name first ∈ repeats earlier uses) : Entries.get? id (earlier ++ uses) = some first := by
  induction uses generalizing earlier with
  | nil => cases h
  | cons use uses ih =>
    rw [repeats_cons] at h
    rcases List.mem_append.1 h with h | h
    · obtain ⟨other, hother, he⟩ := Option.map_eq_some_iff.1 (Option.mem_toList.1 h)
      obtain ⟨hid, -, hfirst⟩ := Problem.repeatedId.inj he
      rw [Entries.get?_append, ← hid, hother, hfirst, Option.some_or]
    · rw [← ih h, List.append_assoc, List.singleton_append]

end Problem

/-- After one more operation, the ids that are kept still answer as all uses do. -/
theorem get?_noteId {earlier used : List (String × String)} (h : ∀ id, Entries.get? id used = Entries.get? id earlier)
    (name : String) (o : Operation) (id : String) :
    Entries.get? id (noteId used name o.operationId) = Entries.get? id (earlier ++ o.idUse name) := by
  unfold Operation.idUse
  cases o.operationId with
  | none => simp [noteId, h]
  | some own =>
    rw [noteId, Option.map_some, Option.toList_some, Entries.get?_append, ← h id]
    split
    · next hused =>
      -- a use that is not the first one of its id does not count
      by_cases hid : own = id
      · obtain ⟨first, hfirst⟩ := Option.isSome_iff_exists.1 hused
        rw [← hid, hfirst, Option.some_or]
      · rw [Entries.get?, if_neg hid, Entries.get?, Option.or_none]
    · rw [Entries.get?_append]

/-! ## The pass -/

theorem problemsOfOperations_perm {earlier used : List (String × String)}
    (h : ∀ id, Entries.get? id used = Entries.get? id earlier) (path : String) (operations : List (Method × Operation)) :
    let visited := operations.map fun (method, o) => (method.locate path, o)
    (problemsOfOperations path used operations).1.Perm
        (Problem.repeats earlier (visited.flatMap fun (name, o) => o.idUse name) ++
          visited.flatMap fun (name, o) => o.parameters.flatMap (Problem.ofEntry name)) ∧
      ∀ id, Entries.get? id (problemsOfOperations path used operations).2 =
        Entries.get? id (earlier ++ visited.flatMap fun (name, o) => o.idUse name) := by
  induction operations generalizing used earlier with
  | nil => exact ⟨.nil, fun id => by simpa [problemsOfOperations] using h id⟩
  | cons first operations ih =>
    obtain ⟨method, o⟩ := first
    obtain ⟨hperm, hused⟩ := ih (get?_noteId h (method.locate path) o)
    refine ⟨?_, fun id => ?_⟩
    · rw [List.perm_iff_count] at hperm ⊢
      intro problem
      have hcount := hperm problem
      simp only [problemsOfOperations, Problem.ofId_eq h, List.map_cons, List.flatMap_cons, Problem.repeats_append,
        List.count_append] at hcount ⊢
      omega
    · simpa only [problemsOfOperations, List.map_cons, List.flatMap_cons, List.append_assoc] using hused id

/-- The problems of the entries that a path owns are those of the entries of its operations, and of those shared. -/
theorem PathItem.flatMap_owned (path : String) (item : PathItem) :
    ((item.owned path).flatMap fun (owner, e) => Problem.ofEntry owner e) =
      ((item.located path).flatMap fun (name, o) => o.parameters.flatMap (Problem.ofEntry name)) ++
        item.parameters.flatMap (Problem.ofEntry path) := by
  simp only [owned, List.flatMap_append, List.flatMap_assoc, List.flatMap_map]

/-- **The problems of paths, rule by rule.** -/
theorem problemsOfPaths_perm {earlier used : List (String × String)}
    (h : ∀ id, Entries.get? id used = Entries.get? id earlier) (paths : List (String × PathItem)) :
    (problemsOfPaths used paths).Perm
      ((paths.flatMap fun (path, _) => Problem.ofPath path) ++
        Problem.repeats earlier
          (paths.flatMap fun (path, item) => (item.located path).flatMap fun (name, o) => o.idUse name) ++
        (paths.flatMap fun (path, item) => item.owned path).flatMap fun (owner, e) => Problem.ofEntry owner e) := by
  induction paths generalizing used earlier with
  | nil => exact .nil
  | cons first paths ih =>
    obtain ⟨path, item⟩ := first
    obtain ⟨hoperations, hused⟩ := problemsOfOperations_perm h path item.operations
    have hlater := ih hused
    rw [List.perm_iff_count] at hoperations hlater ⊢
    intro problem
    have hcount := hoperations problem
    have hcount' := hlater problem
    simp only [problemsOfPaths, List.flatMap_cons, Problem.repeats_append, List.flatMap_append,
      PathItem.flatMap_owned, PathItem.located, List.count_append] at hcount hcount' ⊢
    omega

theorem Problem.flatMap_ofPath (paths : List String) : paths.flatMap ofPath = unrooted paths := by
  induction paths with
  | nil => rfl
  | cons path paths ih =>
    rw [List.flatMap_cons, ih, ofPath]
    by_cases h : path.toList.head? = some '/' <;> simp [unrooted, h]

/-- An entry breaks one rule at most: a path parameter without a name is not said to be optional as well. -/
theorem Problem.ofEntry_perm (entries : List (String × ParameterEntry)) :
    let parameters := entries.filterMap fun (owner, e) => e.parameter?.map (owner, ·)
    (entries.flatMap fun (owner, e) => ofEntry owner e).Perm (unnamed parameters ++ unrequired parameters) := by
  induction entries with
  | nil => exact .nil
  | cons first entries ih =>
    obtain ⟨owner, e⟩ := first
    cases e with
    | reference pointer => exact ih
    | inline p =>
      rw [List.perm_iff_count] at ih ⊢
      intro problem
      have hcount := ih problem
      by_cases hname : p.name = ""
      · simp [ofEntry, unnamed, unrequired, ParameterEntry.parameter?, hname, List.count_cons] at hcount ⊢
        omega
      · by_cases hpath : p.location = .path ∧ p.required = false
        · simp [ofEntry, unnamed, unrequired, ParameterEntry.parameter?, hname, hpath, List.count_cons] at hcount ⊢
          omega
        · simpa [ofEntry, unnamed, unrequired, ParameterEntry.parameter?, hname, hpath] using hcount

/-! ## Documents -/

theorem Document.problems_perm (d : Document) : d.problems.Perm d.violations := by
  have hpaths : (d.paths.entries.flatMap fun (path, _) => Problem.ofPath path) = Problem.unrooted d.paths.names := by
    rw [← Problem.flatMap_ofPath, Named.names, Entries.names, List.flatMap_map]
  have hpass := @problemsOfPaths_perm [] [] (fun _ => rfl) d.paths.entries
  have hentries := Problem.ofEntry_perm (d.paths.entries.flatMap fun (path, item) => item.owned path)
  rw [hpaths] at hpass
  rw [problems, violations, List.append_assoc, List.append_assoc, List.append_assoc]
  refine .append_left _ (hpass.trans ?_)
  rw [List.append_assoc]
  exact .append_left _ (.append_left _ hentries)

theorem Problem.ofVersion_eq_nil_iff {openapi : Option String} :
    ofVersion openapi = [] ↔ ∃ version, openapi = some version ∧ ['3', '.'] <+: version.toList := by
  cases openapi with
  | none => simp [ofVersion]
  | some version => simp [ofVersion]

theorem Problem.unrooted_eq_nil_iff {paths : List String} :
    unrooted paths = [] ↔ ∀ path ∈ paths, path.toList.head? = some '/' := by
  simp [unrooted]

theorem Problem.unnamed_unrequired_eq_nil_iff {parameters : List (String × Parameter)} :
    unnamed parameters = [] ∧ unrequired parameters = [] ↔ ∀ q ∈ parameters, q.2.WellFormed := by
  rw [unnamed, unrequired, List.map_eq_nil_iff, List.map_eq_nil_iff, List.filter_eq_nil_iff, List.filter_eq_nil_iff]
  constructor
  · rintro ⟨hnamed, hrequired⟩ ⟨owner, p⟩ hq
    have hname : p.name ≠ "" := by simpa using hnamed _ hq
    have hpath : p.location = .path → p.required = true := by simpa [hname] using hrequired _ hq
    exact ⟨hname, hpath⟩
  · intro h
    refine ⟨fun q hq => by simpa using (h q hq).named, fun q hq => ?_⟩
    simpa using fun _ hpath => (h q hq).required hpath

theorem PathItem.exists_owner_iff {path : String} {item : PathItem} {e : ParameterEntry} :
    (∃ owner, (owner, e) ∈ item.owned path) ↔ e ∈ item.entries := by
  simp only [owned, located, entries, List.mem_append, List.mem_flatMap, List.mem_map, Prod.exists, Prod.mk.injEq]
  constructor
  · rintro ⟨owner, ⟨_, _, ⟨method, o, ho, -, rfl⟩, _, he, -, rfl⟩ | ⟨_, he, -, rfl⟩⟩
    · exact .inr ⟨method, o, ho, he⟩
    · exact .inl he
  · rintro (he | ⟨method, o, ho, he⟩)
    · exact ⟨path, .inr ⟨e, he, rfl, rfl⟩⟩
    · exact ⟨_, .inl ⟨_, o, ⟨method, o, ho, rfl, rfl⟩, e, he, rfl, rfl⟩⟩

theorem Document.exists_owner_iff {d : Document} {p : Parameter} :
    (∃ owner, (owner, p) ∈ d.ownedParameters) ↔ .inline p ∈ d.entries := by
  have howned : ∀ owner, (owner, p) ∈ d.ownedParameters ↔
      ∃ e ∈ d.paths.entries, (owner, .inline p) ∈ e.2.owned e.1 := by
    intro owner
    simp only [ownedParameters, List.mem_filterMap, List.mem_flatMap]
    constructor
    · rintro ⟨⟨owner', e⟩, hpath, he⟩
      cases e with
      | reference pointer => cases he
      | inline q =>
        cases he
        exact hpath
    · exact fun hpath => ⟨(owner, .inline p), hpath, rfl⟩
  have hentries : .inline p ∈ d.entries ↔ ∃ e ∈ d.paths.entries, .inline p ∈ e.2.entries := by
    rw [entries, Named.values, List.flatMap_map]
    exact List.mem_flatMap
  rw [hentries, exists_congr howned, exists_comm]
  simp only [exists_and_left, PathItem.exists_owner_iff]

/-- **Only valid documents break no rule.** -/
theorem Document.violations_eq_nil_iff {d : Document} : d.violations = [] ↔ d.Valid := by
  have hids : Problem.repeats [] d.idUses = [] ↔ (d.idUses.map Prod.fst).Nodup := by
    rw [Problem.repeats_eq_nil_iff]
    exact and_iff_left fun _ _ => List.not_mem_nil
  have hparameters : (∀ q ∈ d.ownedParameters, q.2.WellFormed) ↔ ∀ p, .inline p ∈ d.entries → p.WellFormed := by
    simp only [← Document.exists_owner_iff, Prod.forall, forall_exists_index]
    exact forall_comm
  rw [violations]
  simp only [List.append_eq_nil_iff, and_assoc]
  rw [Problem.ofVersion_eq_nil_iff, Problem.unrooted_eq_nil_iff, hids, Problem.unnamed_unrequired_eq_nil_iff,
    hparameters]
  exact ⟨fun ⟨hversion, hrooted, hids, hparameters⟩ => ⟨hversion, hrooted, hids, hparameters⟩,
    fun ⟨hversion, hrooted, hids, hparameters⟩ => ⟨hversion, hrooted, hids, hparameters⟩⟩

theorem Document.wellFormed_of_problems {d : Document} (h : d.problems = []) {p : Parameter}
    (hp : .inline p ∈ d.entries) : p.WellFormed :=
  (Document.violations_eq_nil_iff.1 (h ▸ d.problems_perm).nil_eq.symm).parameters p hp

/-- Only a use of an id that was used before is said to repeat it. -/
theorem Document.mem_repeats_of_mem_violations {d : Document} {id name first : String}
    (h : .repeatedId id name first ∈ d.violations) : .repeatedId id name first ∈ Problem.repeats [] d.idUses := by
  have hversion : .repeatedId id name first ∉ Problem.ofVersion d.openapi := by
    unfold Problem.ofVersion
    split
    · simp
    · split <;> simp
  simpa [violations, hversion, Problem.unrooted, Problem.unnamed, Problem.unrequired] using h

/-- **Validation is exact.** A document has no problem exactly if it keeps every rule. In general it has one problem for
each violation of each rule and no others, and where an id is repeated, the problem names the operation that uses it
first. -/
theorem Document.problems_exact (d : Document) :
    (d.problems = [] ↔ d.Valid) ∧ d.problems.Perm d.violations ∧
      ∀ id name first, .repeatedId id name first ∈ d.problems → Entries.get? id d.idUses = some first := by
  refine ⟨?_, d.problems_perm, fun id name first h => ?_⟩
  · rw [← Document.violations_eq_nil_iff]
    exact ⟨fun h => (h ▸ d.problems_perm).nil_eq.symm, fun h => (h ▸ d.problems_perm).eq_nil⟩
  · have hmem : .repeatedId id name first ∈ Problem.repeats [] d.idUses :=
      Document.mem_repeats_of_mem_violations (d.problems_perm.subset h)
    exact Problem.first_of_mem_repeats hmem

/-- An id that is used three times is repeated twice, and both times the first operation is named. -/
example :
    let listing : Method → Option Operation
      | .get => some { operationId := some "list" }
      | _ => none
    let both : Method → Option Operation
      | .get | .put => some { operationId := some "list" }
      | _ => none
    ({ openapi := some "3.1.0"
       paths := ⟨[("/pets", { operation := .build both }), ("/owners", { operation := .build listing })], by decide⟩ } :
        Document).problems =
      [.repeatedId "list" "put /pets" "get /pets", .repeatedId "list" "get /owners" "get /pets"] := by
  decide

end ApiValidators
