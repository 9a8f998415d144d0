/-!
# Named entries

Lists of named values whose order matters. `insert` overwrites in place or adds at the end, so that a name given twice
keeps its first position and its last value.
-/

namespace ApiValidators.Entries

variable {α β : Type}

/-- The first value with a name. -/
def get? (name : String) : List (String × α) → Option α
  | [] => none
  | (k, v) :: rest => if k = name then some v else get? name rest

def names (entries : List (String × α)) : List String := entries.map Prod.fst

/-- The entries with the value of a name replaced, or added at the end. -/
def insert (name : String) (value : α) : List (String × α) → List (String × α)
  | [] => [(name, value)]
  | (k, v) :: rest => if k = name then (k, value) :: rest else (k, v) :: insert name value rest

/-- One entry per name: the first position, the last value. -/
def collect (entries : List (String × α)) : List (String × α) := entries.foldl (fun es e => insert e.1 e.2 es) []

theorem mem_of_get? {name : String} {v : α} {entries : List (String × α)} (h : get? name entries = some v) :
    (name, v) ∈ entries := by
  induction entries with
  | nil => simp [get?] at h
  | cons e es ih =>
    obtain ⟨k, w⟩ := e
    simp only [get?] at h
    split at h
    · next hk => simp_all
    · exact List.mem_cons_of_mem _ (ih h)

/-- A name has a value exactly if it is one of the names. -/
theorem exists_get?_iff {name : String} {entries : List (String × α)} :
    (∃ v, get? name entries = some v) ↔ name ∈ names entries := by
  induction entries with
  | nil => simp [get?, names]
  | cons e es ih =>
    obtain ⟨k, v⟩ := e
    by_cases hk : k = name
    · simp [get?, names, hk]
    · have hn : name ≠ k := fun h => hk h.symm
      simpa [get?, names, hk, hn] using ih

/-- Where no name stands twice, every entry is the one of its name. -/
theorem get?_of_mem {name : String} {v : α} {entries : List (String × α)} (hn : (names entries).Nodup)
    (h : (name, v) ∈ entries) : get? name entries = some v := by
  induction entries with
  | nil => simp at h
  | cons e es ih =>
    obtain ⟨k, w⟩ := e
    obtain ⟨hk, hes⟩ := List.nodup_cons.1 hn
    rcases List.mem_cons.1 h with h | h
    · cases h
      simp [get?]
    · have hne : k ≠ name := fun he => hk (List.mem_map.2 ⟨(name, v), h, he.symm⟩)
      rw [get?, if_neg hne]
      exact ih hes h

theorem get?_perm {name : String} {entries entries' : List (String × α)} (h : entries.Perm entries')
    (hn : (names entries).Nodup) : get? name entries = get? name entries' := by
  have hn' : (names entries').Nodup := (h.map Prod.fst).nodup_iff.1 hn
  refine Option.ext fun v => ⟨fun hv => ?_, fun hv => ?_⟩
  · exact get?_of_mem hn' (h.mem_iff.1 (mem_of_get? hv))
  · exact get?_of_mem hn (h.mem_iff.2 (mem_of_get? hv))

theorem get?_map (name : String) (f : α → β) (entries : List (String × α)) :
    get? name (entries.map fun e => (e.1, f e.2)) = (get? name entries).map f := by
  induction entries with
  | nil => rfl
  | cons e es ih =>
    obtain ⟨k, v⟩ := e
    by_cases hk : k = name <;> simp [get?, hk, ih]

theorem get?_filter {name : String} {names : List String} (h : name ∈ names) (entries : List (String × α)) :
    get? name (entries.filter fun e => names.contains e.1) = get? name entries := by
  induction entries with
  | nil => rfl
  | cons e es ih =>
    obtain ⟨k, v⟩ := e
    by_cases hk : k = name
    · simp [get?, hk, h]
    · rw [get?, if_neg hk, List.filter_cons]
      split
      · rw [get?, if_neg hk, ih]
      · exact ih

theorem get?_append (name : String) (entries more : List (String × α)) :
    get? name (entries ++ more) = (get? name entries).or (get? name more) := by
  induction entries with
  | nil => rfl
  | cons e es ih =>
    obtain ⟨k, v⟩ := e
    by_cases hk : k = name
    · simp [get?, hk]
    · simpa [get?, hk] using ih

theorem names_insert_of_mem {name : String} {value : α} {entries : List (String × α)} (h : name ∈ names entries) :
    names (insert name value entries) = names entries := by
  induction entries with
  | nil => cases h
  | cons e es ih =>
    obtain ⟨k, v⟩ := e
    by_cases hk : k = name
    · rw [insert, if_pos hk, names, names, List.map_cons, List.map_cons]
    · rw [insert, if_neg hk]
      have hes : name ∈ names es := (List.mem_cons.1 h).resolve_left fun he => hk he.symm
      exact congrArg (k :: ·) (ih hes)

theorem insert_of_not_mem {name : String} {value : α} {entries : List (String × α)} (h : name ∉ names entries) :
    insert name value entries = entries ++ [(name, value)] := by
  induction entries with
  | nil => rfl
  | cons e es ih =>
    obtain ⟨hk, hes⟩ := not_or.1 (mt List.mem_cons.2 h)
    rw [insert, if_neg (Ne.symm hk), ih hes]
    rfl

theorem names_insert_of_not_mem {name : String} {value : α} {entries : List (String × α)}
    (h : name ∉ names entries) : names (insert name value entries) = names entries ++ [name] := by
  rw [insert_of_not_mem h, names, List.map_append]
  rfl

theorem nodup_names_insert {name : String} {value : α} {entries : List (String × α)} (h : (names entries).Nodup) :
    (names (insert name value entries)).Nodup := by
  by_cases hm : name ∈ names entries
  · rwa [names_insert_of_mem hm]
  · rw [names_insert_of_not_mem hm]
    refine List.nodup_append.2 ⟨h, List.pairwise_singleton .., fun k hk l hl he => hm ?_⟩
    rwa [← List.mem_singleton.1 hl, ← he]

theorem nodup_names_foldl {entries done : List (String × α)} (h : (names done).Nodup) :
    (names (entries.foldl (fun es e => insert e.1 e.2 es) done)).Nodup := by
  induction entries generalizing done with
  | nil => exact h
  | cons e es ih => exact ih (nodup_names_insert h)

theorem nodup_names_collect {entries : List (String × α)} : (names (collect entries)).Nodup :=
  nodup_names_foldl List.nodup_nil

/-- Entries whose names are new and distinct come behind those there are, as they are. -/
theorem foldl_of_nodup {entries done : List (String × α)} (h : (names (done ++ entries)).Nodup) :
    entries.foldl (fun es e => insert e.1 e.2 es) done = done ++ entries := by
  induction entries generalizing done with
  | nil => exact (List.append_nil done).symm
  | cons e es ih =>
    have hnew : e.1 ∉ names done := by
      intro hmem
      rw [names, List.map_append] at h
      exact (List.nodup_append.1 h).2.2 e.1 hmem e.1 List.mem_cons_self rfl
    have hstep : done ++ [e] ++ es = done ++ e :: es := List.append_cons done e es ▸ rfl
    rw [List.foldl_cons, insert_of_not_mem hnew, ih (by rwa [hstep]), hstep]

theorem collect_of_nodup {entries : List (String × α)} (h : (names entries).Nodup) : collect entries = entries :=
  foldl_of_nodup h

/-- Names that are new come behind those there are, each where it is first given. -/
theorem names_foldl {entries done : List (String × α)} :
    names (entries.foldl (fun es e => insert e.1 e.2 es) done) =
      names done ++ ((names entries).filter fun name => !(names done).contains name).eraseDups := by
  induction entries generalizing done with
  | nil => simp [names]
  | cons e es ih =>
    have hcons : names (e :: es) = e.1 :: names es := rfl
    rw [List.foldl_cons, ih, hcons]
    by_cases he : e.1 ∈ names done
    · rw [names_insert_of_mem he, List.filter_cons_of_neg (by simpa using he)]
    · -- the name is there from now on, so where it is given again does not count
      have hlater : ((names es).filter fun name => !(names done ++ [e.1]).contains name) =
          ((names es).filter fun name => !(names done).contains name).filter fun name => !name == e.1 := by
        rw [List.filter_filter]
        refine List.filter_congr fun name _ => ?_
        by_cases hname : name = e.1 <;> simp [hname]
      rw [names_insert_of_not_mem he, List.filter_cons_of_pos (by simpa using he), List.eraseDups_cons, hlater,
        List.append_assoc, List.singleton_append]

/-- **The names collected are those given**, each where it is first given. -/
theorem names_collect {entries : List (String × α)} : names (collect entries) = (names entries).eraseDups := by
  have hnew : ((names entries).filter fun name => !(names ([] : List (String × α))).contains name) = names entries :=
    List.filter_eq_self.2 fun _ _ => rfl
  rw [collect, names_foldl, hnew, names, List.map_nil, List.nil_append]

/-- Where no name stands twice, one entry at most has a given name. -/
theorem filter_of_nodup {name : String} {entries : List (String × α)} (h : (names entries).Nodup) :
    entries.filter (·.1 == name) = (get? name entries).toList.map (name, ·) := by
  induction entries with
  | nil => rfl
  | cons e es ih =>
    obtain ⟨k, v⟩ := e
    obtain ⟨hk, hes⟩ := List.nodup_cons.1 h
    by_cases hn : k = name
    · subst hn
      have hnone : es.filter (·.1 == k) = [] := by
        rw [List.filter_eq_nil_iff]
        intro e he hek
        exact hk (List.mem_map.2 ⟨e, he, by simpa using hek⟩)
      simp [get?, hnone]
    · rw [List.filter_cons_of_neg (by simpa using hn), ih hes, get?, if_neg hn]

theorem get?_insert_self {name : String} {value : α} {entries : List (String × α)} :
    get? name (insert name value entries) = some value := by
  induction entries with
  | nil => simp [insert, get?]
  | cons e es ih =>
    obtain ⟨k, v⟩ := e
    by_cases hk : k = name
    · simp [insert, get?, hk]
    · simpa [insert, get?, hk] using ih

theorem get?_insert_of_ne {name k : String} {value : α} {entries : List (String × α)} (h : k ≠ name) :
    get? name (insert k value entries) = get? name entries := by
  induction entries with
  | nil => simp [insert, get?, h]
  | cons e es ih =>
    obtain ⟨l, v⟩ := e
    by_cases hl : l = k
    · subst hl
      simp [insert, get?, h]
    · simp only [insert, if_neg hl, get?, ih]

theorem get?_foldl {name : String} {entries done : List (String × α)} :
    get? name (entries.foldl (fun es e => insert e.1 e.2 es) done) =
      ((entries.filter (·.1 == name)).getLast?.map Prod.snd).or (get? name done) := by
  induction entries generalizing done with
  | nil => rfl
  | cons e es ih =>
    rw [List.foldl_cons, ih]
    by_cases he : e.1 = name
    · rw [← he, get?_insert_self, List.filter_cons_of_pos (by simp), List.getLast?_cons]
      cases (es.filter (·.1 == e.1)).getLast? <;> simp
    · rw [get?_insert_of_ne he, List.filter_cons_of_neg (by simpa using he)]

/-- **The last value given for a name is collected.** -/
theorem get?_collect {name : String} {entries : List (String × α)} :
    get? name (collect entries) = (entries.filter (·.1 == name)).getLast?.map Prod.snd :=
  get?_foldl.trans (Option.or_none ..)

theorem mem_of_mem_collect {e : String × α} {entries : List (String × α)} (h : e ∈ collect entries) : e ∈ entries := by
  obtain ⟨last, hlast, hvalue⟩ := Option.map_eq_some_iff.1 (get?_collect.symm.trans (get?_of_mem nodup_names_collect h))
  obtain ⟨hmem, hname⟩ := List.mem_filter.1 (List.mem_of_getLast? hlast)
  have he : last = e := Prod.ext (by simpa using hname) hvalue
  exact he ▸ hmem

end ApiValidators.Entries

namespace ApiValidators

/-- Entries in order, no name twice. -/
structure Named (α : Type) where
  entries : List (String × α)
  nodup : (Entries.names entries).Nodup := by decide

namespace Named

variable {α β : Type}

instance [DecidableEq α] : DecidableEq (Named α) := fun a b =>
  decidable_of_iff (a.entries = b.entries) (by cases a; cases b; simp)

def empty : Named α := ⟨[], List.nodup_nil⟩

/-- The entries of a list, one per name: the first position, the last value. -/
def ofList (entries : List (String × α)) : Named α := ⟨Entries.collect entries, Entries.nodup_names_collect⟩

def names (m : Named α) : List String := Entries.names m.entries

def values (m : Named α) : List α := m.entries.map Prod.snd

def size (m : Named α) : Nat := m.entries.length

/-- The same names with other values, given in the order of the names. -/
def withValues (m : Named α) (values : List β) : Named β where
  entries := List.zipWith (fun e v => (e.1, v)) m.entries values
  nodup := by
    have h : Entries.names (List.zipWith (fun e v => (e.1, v)) m.entries values) =
        (Entries.names m.entries).take values.length := by
      generalize m.entries = es
      induction es generalizing values with
      | nil => simp [Entries.names]
      | cons e es ih =>
        cases values with
        | nil => simp [Entries.names]
        | cons v vs => simpa [Entries.names] using ih vs
    rw [h]
    exact m.nodup.sublist (List.take_sublist _ _)

end Named

end ApiValidators
