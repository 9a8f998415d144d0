import ApiValidators.Proofs.Schema.Fields
import ApiValidators.Proofs.Schema.Values
import Mathlib.Logic.Relation

/-!
# Members of a schema

Which schema an object is read as does not depend on the order of its members, nor on members that have no keyword for a
name, wherever a schema is read below it (`Json.Edit`). Each edit of an object or of what is below it leaves readings
that agree (`agree_of_edit`), so any number of them leaves the same schema (`Schema.ofJson?_members`).
-/

namespace ApiValidators

/-- The schema that a JSON value is read as, if it is one. -/
def Schema.ofJson? (v : Json) : Option Schema := ofContent? (.ofJson v)

/-- The keywords that a schema is read from. -/
def Schema.keywords : List String := Reading.referenceFields ++ Reading.bodyFields

/-- One edit of what is read in a slot, or of something below it, that is to make no difference: the members of a schema
change their order, or one is added that has no keyword for a name. A schema may also be given as the list of its
fields. -/
inductive Json.Edit : Slot → Json → Json → Prop where
  | reorder {members members' : List (String × Json)} : members.Perm members' →
      Edit .schema (.object members) (.object members')
  | add {name : String} (v : Json) (before after : List (String × Json)) : name ∉ Schema.keywords →
      Edit .schema (.object (before ++ after)) (.object (before ++ (name, v) :: after))
  | member {name : String} {v w : Json} (before after : List (String × Json)) : Edit (.ofKeyword name) v w →
      Edit .schema (.object (before ++ (name, v) :: after)) (.object (before ++ (name, w) :: after))
  | field {name : String} {v w : Json} (before after : List Json) : Reading.bodyFields[before.length]? = some name →
      Edit (.ofKeyword name) v w → Edit .schema (.array (before ++ v :: after)) (.array (before ++ w :: after))
  | branch {v w : Json} (before after : List Json) : Edit .schema v w →
      Edit .schemas (.array (before ++ v :: after)) (.array (before ++ w :: after))
  | property {name : String} {v w : Json} (before after : List (String × Json)) : Edit .schema v w →
      Edit .properties (.object (before ++ (name, v) :: after)) (.object (before ++ (name, w) :: after))

namespace Reading

/-! ## Readings of JSON values -/

def ofJson (v : Json) : Reading := of (.ofJson v)

def members (ms : List (String × Json)) : List (String × Reading) := ms.map fun m => (m.1, ofJson m.2)

/-- The members with the given names, each at most once. -/
def found (names : List String) (ms : List (String × Reading)) : Option (List (String × Reading)) :=
  let fields := ms.filter fun m => names.contains m.1
  if (Entries.names fields).Nodup then some fields else none

theorem ofItems_ofItems (items : List Json) : ofItems (Content.ofItems items) = items.map ofJson := by
  induction items with
  | nil => rfl
  | cons v vs ih => rw [Content.ofItems, ofItems, ih, List.map_cons, ofJson]

theorem ofMembers_ofMembers (ms : List (String × Json)) :
    ofMembers (Content.ofMembers ms) = (members ms).map fun m => (.text m.1, m.2) := by
  induction ms with
  | nil => rfl
  | cons m ms ih => rw [Content.ofMembers, ofMembers, ih, members, members, List.map_cons, List.map_cons, ofJson]

theorem fieldsOf?_members (names : List String) (ms : List (String × Reading)) :
    Content.fieldsOf? names (ms.map fun m => (.text m.1, m.2)) = found names ms := by
  have hfield : ∀ m : String × Reading, (Content.field? names (.text m.1)).map (·.map (·, m.2)) =
      some (if names.contains m.1 then some m else none) := by
    intro m
    rw [Content.field?]
    split <;> rfl
  have hfound : (ms.map fun m => (Content.text m.1, m.2)).mapM
      (fun m => (Content.field? names m.1).map (·.map (·, m.2))) =
        some (ms.map fun m => if names.contains m.1 then some m else none) := by
    rw [List.mapM_map, ← Option.pure_def, ← List.mapM_pure]
    exact congrArg (ms.mapM ·) (funext hfield)
  have hfilter : (ms.map fun m => if names.contains m.1 then some m else none).filterMap id =
      ms.filter fun m => names.contains m.1 := by
    rw [List.filterMap_map]
    exact congrFun (List.filterMap_eq_filter ..) ms
  simp only [Content.fieldsOf?, hfound, Option.bind_eq_bind, Option.bind_some, hfilter]
  rfl

theorem schema_object (ms : List (String × Json)) :
    (ofJson (.object ms)).schema = schema? (found referenceFields (members ms)) (found bodyFields (members ms)) := by
  rw [ofJson, Content.ofJson, of, ofMembers_ofMembers, fieldsOf?_members, fieldsOf?_members]

theorem schema_array (items : List Json) :
    (ofJson (.array items)).schema = schema? (Content.fieldsAt? referenceFields (items.map ofJson))
      (Content.fieldsAt? bodyFields (items.map ofJson)) := by
  rw [ofJson, Content.ofJson, of, ofItems_ofItems]

theorem schemas_array (items : List Json) :
    (ofJson (.array items)).schemas = (items.map fun v => (ofJson v).schema).mapM id := by
  rw [ofJson, Content.ofJson, of, ofItems_ofItems, List.mapM_map, List.mapM_map]
  rfl

theorem properties_object (ms : List (String × Json)) : (ofJson (.object ms)).properties =
    ((ms.map fun m => (ofJson m.2).schema.map (m.1, ·)).mapM id).map Entries.collect := by
  have hproperty : ∀ m : String × Json, property? (.text m.1, ofJson m.2) = (ofJson m.2).schema.map (m.1, ·) := by
    intro m
    rw [property?]
    cases (ofJson m.2).schema <;> rfl
  rw [ofJson, Content.ofJson, of, ofMembers_ofMembers, members, List.mapM_map, List.mapM_map, List.mapM_map]
  exact congrArg (fun f => (ms.mapM f).map Entries.collect) (funext hproperty)

@[simp] theorem members_append (ms ns : List (String × Json)) : members (ms ++ ns) = members ms ++ members ns :=
  List.map_append

@[simp] theorem members_cons (m : String × Json) (ms : List (String × Json)) :
    members (m :: ms) = (m.1, ofJson m.2) :: members ms := rfl

/-! ## Fields that are found -/

/-- The order of members does not matter to the fields that are found. -/
theorem found_perm {ms ns : List (String × Reading)} (h : ms.Perm ns) (names : List String) :
    Option.Rel FieldsAgree (found names ms) (found names ns) := by
  have hfilter : (ms.filter fun m => names.contains m.1).Perm (ns.filter fun m => names.contains m.1) := h.filter _
  have hnodup : (Entries.names (ms.filter fun m => names.contains m.1)).Nodup ↔
      (Entries.names (ns.filter fun m => names.contains m.1)).Nodup := (hfilter.map Prod.fst).nodup_iff
  by_cases hn : (Entries.names (ms.filter fun m => names.contains m.1)).Nodup
  · simp only [found, if_pos hn, if_pos (hnodup.1 hn)]
    apply Option.Rel.some
    intro name
    rw [← Entries.get?_perm hfilter hn]
    exact FieldsAgree.refl _ name
  · simp only [found, if_neg hn, if_neg (mt hnodup.2 hn)]
    exact .none

theorem rel_found_refl (names : List String) (ms : List (String × Reading)) :
    Option.Rel FieldsAgree (found names ms) (found names ms) := found_perm (.refl ms) names

theorem found_add {name : String} {names : List String} (h : name ∉ names) (r : Reading)
    (before after : List (String × Reading)) :
    found names (before ++ (name, r) :: after) = found names (before ++ after) := by
  simp [found, h]

theorem found_replace {name : String} {r q : Reading} (h : Agree (.ofKeyword name) r q) (names : List String)
    (before after : List (String × Reading)) :
    Option.Rel FieldsAgree (found names (before ++ (name, r) :: after))
      (found names (before ++ (name, q) :: after)) := by
  by_cases hname : name ∈ names
  · have hkeys : Entries.names ((before ++ (name, r) :: after).filter fun m => names.contains m.1) =
        Entries.names ((before ++ (name, q) :: after).filter fun m => names.contains m.1) := by
      simp [Entries.names, hname]
    unfold found
    simp only [hkeys]
    split
    · refine .some ?_
      simpa [hname] using FieldsAgree.replace h _ _
    · exact .none
  · rw [found_add hname, found_add hname]
    exact rel_found_refl names (before ++ after)

/-- One item of a list of fields may be replaced by another that agrees with it. -/
theorem fieldsAt?_replace {names : List String} {r q : Reading} {before : List Reading}
    (h : ∀ name, names[before.length]? = some name → Agree (.ofKeyword name) r q) (after : List Reading) :
    Option.Rel FieldsAgree (Content.fieldsAt? names (before ++ r :: after))
      (Content.fieldsAt? names (before ++ q :: after)) := by
  by_cases hle : before.length + (after.length + 1) ≤ names.length
  · have hlt : before.length < names.length := by omega
    have hzip : ∀ x : Reading, names.zip (before ++ x :: after) = (names.take before.length).zip before ++
        (names[before.length], x) :: (names.drop (before.length + 1)).zip after := by
      intro x
      have hlength : (names.take before.length).length = before.length := by
        rw [List.length_take]
        omega
      rw [← List.zip_cons_cons, ← List.zip_append hlength, ← List.drop_eq_getElem_cons hlt, List.take_append_drop]
    simp only [Content.fieldsAt?, List.length_append, List.length_cons, if_pos hle, hzip]
    exact .some (FieldsAgree.replace (h _ (List.getElem?_eq_getElem hlt)) _ _)
  · simp only [Content.fieldsAt?, List.length_append, List.length_cons, if_neg hle]
    exact .none

/-! ## Edits -/

/-- An object is read as a schema from the fields that are found in it. -/
theorem agree_object {ms ns : List (String × Json)}
    (href : Option.Rel FieldsAgree (found referenceFields (members ms)) (found referenceFields (members ns)))
    (hbody : Option.Rel FieldsAgree (found bodyFields (members ms)) (found bodyFields (members ns))) :
    Agree .schema (ofJson (.object ms)) (ofJson (.object ns)) := by
  refine ⟨?_, rfl, ⟨Content.noConfusion, Content.noConfusion⟩⟩
  rw [schema_object, schema_object]
  exact schema?_congr href hbody

/-- **An edit leaves readings that agree** in its slot. -/
theorem agree_of_edit {p : Slot} {v w : Json} (h : Json.Edit p v w) : Agree p (ofJson v) (ofJson w) := by
  induction h with
  | reorder hperm =>
    have hmembers := hperm.map fun m : String × Json => (m.1, ofJson m.2)
    exact agree_object (found_perm hmembers _) (found_perm hmembers _)
  | add v before after hname =>
    obtain ⟨href, hbody⟩ := not_or.1 (mt List.mem_append.2 hname)
    apply agree_object
    · rw [members_append, members_append, members_cons, found_add href]
      exact rel_found_refl _ _
    · rw [members_append, members_append, members_cons, found_add hbody]
      exact rel_found_refl _ _
  | member before after hedit ih =>
    apply agree_object
    · rw [members_append, members_append, members_cons, members_cons]
      exact found_replace ih _ _ _
    · rw [members_append, members_append, members_cons, members_cons]
      exact found_replace ih _ _ _
  | @field name v w before after hname hedit ih =>
    have hlength : (before.map ofJson).length = before.length := List.length_map ..
    refine ⟨?_, rfl, ⟨Content.noConfusion, Content.noConfusion⟩⟩
    rw [schema_array, schema_array, List.map_append, List.map_append, List.map_cons, List.map_cons]
    apply schema?_congr
    · -- the first field is the pointer of a reference or the type of a body, and neither can be edited
      refine fieldsAt?_replace (fun k hk => ?_) _
      cases before with
      | nil =>
        cases hname
        cases hedit
      | cons b before => simp [referenceFields] at hk
    · refine fieldsAt?_replace (fun k hk => ?_) _
      rw [hlength, hname] at hk
      cases hk
      exact ih
  | branch before after hedit ih =>
    have hschema := ih.1
    show _ = _
    rw [schemas_array, schemas_array]
    simp only [List.map_append, List.map_cons, hschema]
  | property before after hedit ih =>
    have hschema := ih.1
    show _ = _
    rw [properties_object, properties_object]
    simp only [List.map_append, List.map_cons, hschema]

/-! ## Objects without repeated names -/

theorem content_ofJson (v : Json) : (ofJson v).content = .ofJson v := by
  unfold ofJson
  cases Content.ofJson v <;> rfl

theorem names_members (ms : List (String × Json)) : Entries.names (members ms) = Entries.names ms := by
  simp [Entries.names, members]

theorem found_of_nodup {ms : List (String × Reading)} (h : (Entries.names ms).Nodup) (names : List String) :
    found names ms = some (ms.filter fun m => names.contains m.1) := by
  unfold found
  exact if_pos (h.sublist ((List.filter_sublist ..).map Prod.fst))

theorem get?_found {ms : List (String × Json)} {names : List String} {name : String} (h : name ∈ names) :
    Entries.get? name ((members ms).filter fun m => names.contains m.1) = (Entries.get? name ms).map ofJson := by
  rw [Entries.get?_filter h, members, Entries.get?_map]

theorem asText?_ofJson {v : Json} {s : String} : (ofJson v).content.asText? = some s ↔ v = .string s := by
  rw [content_ofJson]
  cases v with
  | string t => simp [Content.ofJson, Content.asText?]
  | number n =>
    cases n with
    | whole n => by_cases hn : n < 0 <;> simp [Content.ofJson, Content.asText?, hn]
    | double x => simp [Content.ofJson, Content.asText?]
  | null | bool b | array items | object members => simp [Content.ofJson, Content.asText?]

end Reading

namespace Schema

variable {members : List (String × Json)}

theorem ofJson?_object (h : (Entries.names members).Nodup) : ofJson? (.object members) =
    Reading.schema? (some ((Reading.members members).filter fun m => Reading.referenceFields.contains m.1))
      (some ((Reading.members members).filter fun m => Reading.bodyFields.contains m.1)) := by
  have hnames : (Entries.names (Reading.members members)).Nodup := by rwa [Reading.names_members]
  rw [← Reading.found_of_nodup hnames, ← Reading.found_of_nodup hnames, ← Reading.schema_object]
  rfl

theorem pointer?_members {pointer : String} (h : (Entries.names members).Nodup) :
    Reading.pointer? ((Reading.members members).filter fun m => Reading.referenceFields.contains m.1) = some pointer ↔
      ("$ref", .string pointer) ∈ members := by
  have href : "$ref" ∈ Reading.referenceFields := by decide
  rw [Reading.pointer?, Reading.get?_found href, Option.bind_eq_some_iff]
  constructor
  · rintro ⟨r, hr, htext⟩
    obtain ⟨v, hv, rfl⟩ := Option.map_eq_some_iff.1 hr
    rw [Reading.asText?_ofJson.1 htext] at hv
    exact Entries.mem_of_get? hv
  · intro hmem
    have hget := Entries.get?_of_mem h hmem
    exact ⟨Reading.ofJson (.string pointer), by rw [hget]; rfl, rfl⟩

/-- An object is a reference exactly if a text stands under `$ref`, and then nothing else in it matters. -/
theorem ofJson?_eq_reference_iff (h : (Entries.names members).Nodup) {pointer : String} :
    ofJson? (.object members) = some (.reference pointer) ↔ ("$ref", .string pointer) ∈ members := by
  rw [ofJson?_object h, ← pointer?_members h, Reading.schema?, Option.bind_some]
  cases Reading.pointer? _ with
  | none => simp
  | some p => simp

/-- A body is read from the members that have a keyword for a name. -/
theorem body?_of_ofJson? (h : (Entries.names members).Nodup) {b : Body Schema}
    (hb : ofJson? (.object members) = some (.inline b)) :
    Reading.body? ((Reading.members members).filter fun m => Reading.bodyFields.contains m.1) = some b := by
  rw [ofJson?_object h, Reading.schema?, Option.bind_some, Option.bind_some] at hb
  split at hb
  · cases hb
  · obtain ⟨_, hbody, ⟨⟩⟩ := Option.map_eq_some_iff.1 hb
    exact hbody

/-- The default of a body is the value that stands under its keyword, be it null. -/
theorem default_of_ofJson? (h : (Entries.names members).Nodup) {b : Body Schema}
    (hb : ofJson? (.object members) = some (.inline b)) :
    (b.default.isSome ↔ "default" ∈ Entries.names members) ∧
      ∀ v, v.DistinctKeys → ("default", v) ∈ members → b.default = some v := by
  have hdefault : "default" ∈ Reading.bodyFields := by decide
  rw [← Entries.exists_get?_iff]
  rcases Reading.default_of_body? (body?_of_ofJson? h hb) with ⟨hget, hb⟩ | ⟨r, v, hget, hv, hb⟩
  · rw [Reading.get?_found hdefault, Option.map_eq_none_iff] at hget
    refine ⟨by simp [hb, hget], fun v _ hmem => ?_⟩
    rw [Entries.get?_of_mem h hmem] at hget
    cases hget
  · rw [Reading.get?_found hdefault] at hget
    obtain ⟨w, hw, rfl⟩ := Option.map_eq_some_iff.1 hget
    refine ⟨by simp [hb, hw], fun u hu hmem => ?_⟩
    -- what stands there is read as it is
    rw [Entries.get?_of_mem h hmem] at hw
    cases hw
    rw [Reading.content_ofJson, Content.asJson?_ofJson hu] at hv
    rw [hb, hv]

/-- Any number of edits, made or undone, leaves the same schema. -/
theorem ofJson?_congr {v w : Json} (h : Relation.EqvGen (Json.Edit .schema) v w) : ofJson? v = ofJson? w := by
  induction h with
  | rel v w hedit => exact (Reading.agree_of_edit hedit).1
  | refl v => rfl
  | symm v w h ih => exact ih.symm
  | trans v w u h h' ih ih' => exact ih.trans ih'

/-- **A schema does not depend on the order of members, nor on members that are no keywords**, in the object it is read
from and wherever a schema is read below that: after any number of such edits the same schema is read, or none before
and after. An object is read as a reference exactly if a text stands under `$ref`, whatever stands beside it. A body
that is read has a default exactly if there is a member of that name, and its value then, even a null. -/
theorem ofJson?_members :
    (∀ v w, Relation.EqvGen (Json.Edit .schema) v w → ofJson? v = ofJson? w) ∧
    ∀ members : List (String × Json), (Entries.names members).Nodup →
      (∀ pointer, ofJson? (.object members) = some (.reference pointer) ↔ ("$ref", .string pointer) ∈ members) ∧
      ∀ b, ofJson? (.object members) = some (.inline b) →
        (b.default.isSome ↔ "default" ∈ Entries.names members) ∧
          ∀ v, v.DistinctKeys → ("default", v) ∈ members → b.default = some v := by
  refine ⟨fun v w => ofJson?_congr, fun members h => ⟨fun pointer => ofJson?_eq_reference_iff h, fun b => ?_⟩⟩
  exact default_of_ofJson? h

/-- A body with a null as default, whose property has a member that is no keyword. -/
def shelf : List (String × Json) :=
  [("default", .null),
    ("properties", .object [("title", .object [("x-note", .bool true), ("type", .string "string")])])]

/-- The same body in another order, and without that member. -/
def tidyShelf : List (String × Json) :=
  [("properties", .object [("title", .object [("type", .string "string")])]), ("default", .null)]

/-- Both are read as the same body with a default. With a text under `$ref` only that text counts. -/
theorem ofJson?_members_shelf :
    Relation.EqvGen (Json.Edit .schema) (.object shelf) (.object tidyShelf) ∧
    ofJson? (.object shelf) = ofJson? (.object tidyShelf) ∧
    (Entries.names tidyShelf).Nodup ∧
    (∃ b, ofJson? (.object tidyShelf) = some (.inline b) ∧ b.default = some .null) ∧
    ofJson? (.object (("minimum", .bool true) :: ("$ref", .string "Shelf") :: tidyShelf)) =
      some (.reference "Shelf") := by
  obtain ⟨hedits, hobject⟩ := ofJson?_members
  have hnames : (Entries.names tidyShelf).Nodup := by decide
  have hnote : Json.Edit .schema (.object [("type", .string "string")])
      (.object [("x-note", .bool true), ("type", .string "string")]) := .add _ [] _ (by decide)
  have hdeep : Json.Edit .schema (.object tidyShelf) (.object shelf.reverse) :=
    .member [] [("default", .null)] (.property [] [] hnote)
  have hspellings : Relation.EqvGen (Json.Edit .schema) (.object shelf) (.object tidyShelf) :=
    .trans _ _ _ (.rel _ _ (.reorder shelf.reverse_perm.symm)) (.symm _ _ (.rel _ _ hdeep))
  obtain ⟨b, hb⟩ : ∃ b, ofJson? (.object tidyShelf) = some (.inline b) := ⟨_, rfl⟩
  obtain ⟨-, hdefault⟩ := (hobject tidyShelf hnames).2 b hb
  refine ⟨hspellings, hedits _ _ hspellings, hnames, ⟨b, hb, hdefault .null trivial ?_⟩, ?_⟩
  · exact List.mem_cons_of_mem _ List.mem_cons_self
  · refine ((hobject _ ?_).1 "Shelf").2 (List.mem_cons_of_mem _ List.mem_cons_self)
    decide

end Schema

end ApiValidators
