import ApiValidators.Proofs.Document.Parameters

/-!
# Where the entries of an operation stand

The own entries of an operation override the shared ones one after the other, each in the list that those before it have
left. The outcome needs no such list (`entriesOf_eq`): every shared entry keeps its place, and the first one of a name
and location is replaced by the last own one; behind them stand the own references and one entry for each new name and
location, where these first appear. The argument goes by places: what happens at the first place depends on the own
entries of its name and location alone, and all others act on the places behind it (`overrideAll_cons`).
-/

namespace ApiValidators

namespace ParameterEntry

/-- The last own entry of the name and location of an entry, or the entry itself where there is none. -/
def latest (owns : List ParameterEntry) (e : ParameterEntry) : ParameterEntry := (owns.filter e.alike).getLast?.getD e

/-- Whether an entry has a place of its own behind others: none of them is alike. A reference always has one. -/
def opens (before : List ParameterEntry) (e : ParameterEntry) : Bool := !before.any e.alike

/-- The pointer of an entry given by reference. -/
def pointer? : ParameterEntry → Option String
  | reference pointer => some pointer
  | inline _ => none

variable {own e f : ParameterEntry} {owns entries es : List ParameterEntry}

/-! ## The last own entry of a place -/

/-- Own entries that are alike say the same about the entry of a place. -/
theorem latest_cons_of_alike (h : e.alike own = true) : e.latest (own :: owns) = own.latest owns := by
  rw [latest, latest, alike_congr h, List.filter_cons_of_pos h, List.getLast?_cons]
  rfl

theorem latest_cons_of_not_alike (h : e.alike own = false) : e.latest (own :: owns) = e.latest owns := by
  rw [latest, latest, List.filter_cons_of_neg (by simp [h])]

/-- The first own entry of its name and location comes to the last one. -/
theorem latest_cons_self (own : ParameterEntry) (owns : List ParameterEntry) :
    own.latest (own :: owns) = own.latest owns := by
  by_cases h : own.alike own = true
  · exact latest_cons_of_alike h
  · exact latest_cons_of_not_alike (by simpa using h)

theorem latest_filter (h : e.alike f = false) (owns : List ParameterEntry) :
    f.latest (owns.filter fun own => !e.alike own) = f.latest owns := by
  have hfilter : (owns.filter fun own => !e.alike own).filter f.alike = owns.filter f.alike := by
    rw [List.filter_filter]
    refine List.filter_congr fun own _ => ?_
    by_cases hown : f.alike own = true
    · have hother : e.alike own = false := by
        rw [alike_comm, alike_congr hown, alike_comm, h]
      rw [hown, hother]
      rfl
    · simp [hown]
  rw [latest, latest, hfilter]

theorem latest_filter_of_alike (h : e.alike f = true) (owns : List ParameterEntry) :
    f.latest (owns.filter fun own => !e.alike own) = f := by
  have hnone : (owns.filter fun own => !e.alike own).filter f.alike = [] := by
    rw [alike_congr h, List.filter_eq_nil_iff]
    intro own hown
    simpa using (List.mem_filter.1 hown).2
  rw [latest, hnone]
  rfl

theorem opens_cons (e f : ParameterEntry) (es : List ParameterEntry) :
    f.opens (e :: es) = (!e.alike f && f.opens es) := by
  rw [opens, opens, List.any_cons, Bool.not_or, alike_comm]

/-! ## One place -/

/-- The entries after all own ones. -/
def overrideAll (entries owns : List ParameterEntry) : List ParameterEntry :=
  owns.foldl (fun entries own => own.override entries) entries

/-- **What happens at the first place.** It comes to the last own entry of its name and location, and the other own
entries act on the places behind it. -/
theorem overrideAll_cons (e : ParameterEntry) (es owns : List ParameterEntry) :
    overrideAll (e :: es) owns = e.latest owns :: overrideAll es (owns.filter fun own => !e.alike own) := by
  unfold overrideAll
  induction owns generalizing e es with
  | nil => rfl
  | cons own owns ih =>
    by_cases h : e.alike own = true
    · rw [List.foldl_cons, override_cons_of_alike h, ih, latest_cons_of_alike h, alike_congr h,
        List.filter_cons_of_neg (by simp [h])]
    · have hown : e.alike own = false := by simpa using h
      rw [List.foldl_cons, override_cons_of_not_alike hown, ih, latest_cons_of_not_alike hown,
        List.filter_cons_of_pos (by simp [hown]), List.foldl_cons]

/-! ## All places -/

theorem mem_of_mem_eraseDupsBy : ∀ {entries : List ParameterEntry}, e ∈ entries.eraseDupsBy alike → e ∈ entries
  | [], h => by simp at h
  | f :: entries, h => by
    rw [List.eraseDupsBy_cons] at h
    rcases List.mem_cons.1 h with rfl | h
    · exact List.mem_cons_self
    · exact List.mem_cons_of_mem _ (List.mem_filter.1 (mem_of_mem_eraseDupsBy h)).1
  termination_by entries => entries.length
  decreasing_by exact Nat.lt_succ_of_le (List.length_filter_le _ _)

/-- Own entries that override nothing: each name and location where it first appears, with the last of its entries. -/
theorem overrideAll_nil : ∀ owns : List ParameterEntry,
    overrideAll [] owns = (owns.eraseDupsBy alike).map (latest owns)
  | [] => rfl
  | own :: owns => by
    have hstep : overrideAll [] (own :: owns) = overrideAll [own] owns := by
      unfold overrideAll
      cases own <;> rfl
    have hfilter : (owns.filter fun f => decide (f.alike own = false)) = owns.filter fun f => !own.alike f :=
      List.filter_congr fun f _ => by rw [alike_comm f own]; cases own.alike f <;> rfl
    rw [hstep, overrideAll_cons, overrideAll_nil, List.eraseDupsBy_cons, List.map_cons, latest_cons_self, hfilter]
    congr 1
    refine List.map_congr_left fun f hf => ?_
    have hother : own.alike f = false := by simpa using (List.mem_filter.1 (mem_of_mem_eraseDupsBy hf)).2
    rw [latest_filter hother, latest_cons_of_not_alike (by rw [alike_comm, hother])]
  termination_by owns => owns.length
  decreasing_by exact Nat.lt_succ_of_le (List.length_filter_le _ _)

/-- Shared entries keep their places, and own ones that are new come behind them. -/
theorem overrideAll_eq (entries owns : List ParameterEntry) : overrideAll entries owns =
    (entries.mapIdx fun i e => if e.opens (entries.take i) then e.latest owns else e) ++
      ((owns.filter (opens entries)).eraseDupsBy alike).map (latest owns) := by
  induction entries generalizing owns with
  | nil =>
    have hall : owns.filter (opens []) = owns := List.filter_eq_self.2 fun _ _ => rfl
    rw [hall, List.mapIdx_nil, List.nil_append, overrideAll_nil]
  | cons e es ih =>
    have hnew : (owns.filter fun own => !e.alike own).filter (opens es) = owns.filter (opens (e :: es)) := by
      rw [List.filter_filter]
      exact List.filter_congr fun own _ => by rw [opens_cons, Bool.and_comm]
    have hplaces : (es.mapIdx fun i f =>
          if f.opens (es.take i) then f.latest (owns.filter fun own => !e.alike own) else f) =
        es.mapIdx fun i f => if f.opens ((e :: es).take (i + 1)) then f.latest owns else f := by
      refine List.mapIdx_eq_mapIdx_iff.2 fun i hi => ?_
      rw [List.take_succ_cons, opens_cons]
      cases h : e.alike es[i] with
      | false => rw [latest_filter h, Bool.not_false, Bool.true_and]
      | true => simp [latest_filter_of_alike h]
    have hadded : ((owns.filter (opens (e :: es))).eraseDupsBy alike).map
          (latest (owns.filter fun own => !e.alike own)) =
        ((owns.filter (opens (e :: es))).eraseDupsBy alike).map (latest owns) := by
      refine List.map_congr_left fun f hf => ?_
      have hopens : f.opens (e :: es) = true := (List.mem_filter.1 (mem_of_mem_eraseDupsBy hf)).2
      rw [opens_cons, Bool.and_eq_true, Bool.not_eq_true'] at hopens
      exact latest_filter hopens.1 owns
    rw [overrideAll_cons, ih, hnew, hplaces, hadded, List.mapIdx_cons, List.cons_append]
    rfl

/-! ## References -/

theorem pointer?_of_alike (h : e.alike f = true) : e.pointer? = none ∧ f.pointer? = none := by
  cases e with
  | reference pointer => cases h
  | inline p =>
    cases f with
    | reference pointer => cases h
    | inline q => exact ⟨rfl, rfl⟩

theorem pointers_override (own : ParameterEntry) (entries : List ParameterEntry) :
    (own.override entries).filterMap pointer? = entries.filterMap pointer? ++ own.pointer?.toList := by
  induction entries with
  | nil =>
    rw [override_nil, List.filterMap_cons]
    cases own.pointer? <;> rfl
  | cons e es ih =>
    cases h : e.alike own with
    | true =>
      obtain ⟨he, hown⟩ := pointer?_of_alike h
      rw [override_cons_of_alike h, List.filterMap_cons_none hown, List.filterMap_cons_none he, hown]
      exact (List.append_nil _).symm
    | false =>
      rw [override_cons_of_not_alike h, List.filterMap_cons, ih, List.filterMap_cons]
      cases e.pointer? <;> rfl

/-- Own references are never lost, and come behind the shared ones. -/
theorem pointers_overrideAll (entries owns : List ParameterEntry) :
    (overrideAll entries owns).filterMap pointer? = entries.filterMap pointer? ++ owns.filterMap pointer? := by
  unfold overrideAll
  induction owns generalizing entries with
  | nil => exact (List.append_nil _).symm
  | cons own owns ih =>
    rw [List.foldl_cons, ih, pointers_override, List.append_assoc, List.filterMap_cons]
    cases own.pointer? <;> rfl

end ParameterEntry

open ParameterEntry

/-- **Which entries an operation has, place by place.** Every shared entry keeps its place; the first one of its name
and location comes to the last own one of these, if there is any. Behind them stand the own entries that are unlike all
shared ones, references among them: those that are alike in one place, where the first of them stood, with the last of
them. So all own references stay, and of the entries of one name and location all but the first are shared ones. -/
theorem PathItem.entriesOf_eq (item : PathItem) (operation : Operation) :
    item.entriesOf operation =
      (item.parameters.mapIdx fun i e =>
        if e.opens (item.parameters.take i) then e.latest operation.parameters else e) ++
      ((operation.parameters.filter (opens item.parameters)).eraseDupsBy alike).map (latest operation.parameters) ∧
    (item.entriesOf operation).filterMap pointer? =
      item.parameters.filterMap pointer? ++ operation.parameters.filterMap pointer? ∧
    ∀ p, ((item.entriesOf operation).filter (clashes p)).tail = (item.parameters.filter (clashes p)).tail := by
  refine ⟨overrideAll_eq _ _, pointers_overrideAll _ _, fun p => ?_⟩
  rw [item.filter_entriesOf operation p]
  cases (operation.parameters.filter (clashes p)).getLast? <;> rfl

/-- Two own entries override one place, and a second shared entry of their name and location stays. -/
example :
    let entry (name description : String) : ParameterEntry :=
      .inline { name := name, location := .query, description := some description }
    ({ operation := .build fun _ => none
       parameters := [entry "limit" "shared", .reference "page", entry "limit" "shared again"] } : PathItem).entriesOf
        { parameters := [entry "sort" "own", .reference "page", entry "limit" "own", entry "sort" "own again",
            entry "limit" "own again"] } =
      [entry "limit" "own again", .reference "page", entry "limit" "shared again", entry "sort" "own again",
        .reference "page"] := by
  decide

end ApiValidators
