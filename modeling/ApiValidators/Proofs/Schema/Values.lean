import ApiValidators.Source.Tree

/-!
# Values as content

A JSON value that is read from content has no key twice, at any depth (`distinctKeys_of_asJson?`), and every value
without such keys is read from its own content as it is (`asJson?_ofJson`).
-/

namespace ApiValidators

namespace Json

theorem distinctKeysMembers_iff {members : List (String × Json)} :
    DistinctKeysMembers members ↔ ∀ m ∈ members, m.2.DistinctKeys := by
  induction members with
  | nil => simp [DistinctKeysMembers]
  | cons m ms ih => simp [DistinctKeysMembers, ih]

theorem distinctKeys_collect {members : List (String × Json)} (h : DistinctKeysMembers members) :
    (object (Entries.collect members)).DistinctKeys := by
  refine ⟨Entries.nodup_names_collect, distinctKeysMembers_iff.2 fun m hm => ?_⟩
  exact distinctKeysMembers_iff.1 h m (Entries.mem_of_mem_collect hm)

end Json

namespace Content

theorem ofItems_eq_map (items : List Json) : ofItems items = items.map ofJson := by
  induction items with
  | nil => rfl
  | cons v vs ih => rw [ofItems, ih, List.map_cons]

theorem ofMembers_eq_map (members : List (String × Json)) :
    ofMembers members = members.map fun m => (text m.1, ofJson m.2) := by
  induction members with
  | nil => rfl
  | cons m ms ih => rw [ofMembers, ih, List.map_cons]

mutual

/-- No value that is read has a key twice. -/
theorem distinctKeys_of_asJson? : ∀ {c : Content} {v : Json}, c.asJson? = some v → v.DistinctKeys
  | null, _, rfl | bool _, _, rfl | unsigned _, _, rfl | signed _, _, rfl | double _, _, rfl => trivial
  | notFinite, _, rfl | text _, _, rfl => trivial
  | list items, v, h => by
    obtain ⟨vs, hvs, rfl⟩ := Option.map_eq_some_iff.1 h
    exact distinctKeys_of_asJsonItems? hvs
  | map members, v, h => by
    obtain ⟨ms, hms, rfl⟩ := Option.map_eq_some_iff.1 h
    exact Json.distinctKeys_collect (distinctKeys_of_asJsonMembers? hms)

theorem distinctKeys_of_asJsonItems? : ∀ {items : List Content} {vs : List Json}, asJsonItems? items = some vs →
    Json.DistinctKeysEach vs
  | [], _, rfl => trivial
  | c :: items, vs, h => by
    simp only [asJsonItems?, Option.bind_eq_bind, Option.bind_eq_some_iff, Option.pure_def] at h
    obtain ⟨v, hv, ws, hws, hvs⟩ := h
    cases hvs
    exact ⟨distinctKeys_of_asJson? hv, distinctKeys_of_asJsonItems? hws⟩

theorem distinctKeys_of_asJsonMembers? : ∀ {members : List (Content × Content)} {ms : List (String × Json)},
    asJsonMembers? members = some ms → Json.DistinctKeysMembers ms
  | [], _, rfl => trivial
  | (k, c) :: members, ms, h => by
    simp only [asJsonMembers?, Option.bind_eq_bind, Option.bind_eq_some_iff, Option.pure_def] at h
    obtain ⟨key, -, v, hv, ns, hns, hms⟩ := h
    cases hms
    exact ⟨distinctKeys_of_asJson? hv, distinctKeys_of_asJsonMembers? hns⟩

end

mutual

theorem asJson?_ofJson : ∀ {v : Json}, v.DistinctKeys → (ofJson v).asJson? = some v
  | .null, _ | .bool _, _ | .string _, _ | .number (.double _), _ => rfl
  | .number (.whole n), _ => by
    by_cases hn : n < 0
    · simp [ofJson, hn, asJson?]
    · simp [ofJson, hn, asJson?]
      omega
  | .array items, h => by rw [ofJson, asJson?, asJsonItems?_ofItems h, Option.map_some]
  | .object members, h => by
    rw [ofJson, asJson?, asJsonMembers?_ofMembers h.2, Option.map_some, Entries.collect_of_nodup h.1]

theorem asJsonItems?_ofItems : ∀ {items : List Json}, Json.DistinctKeysEach items →
    asJsonItems? (ofItems items) = some items
  | [], _ => rfl
  | v :: items, h => by
    rw [ofItems, asJsonItems?, asJson?_ofJson h.1, asJsonItems?_ofItems h.2]
    rfl

theorem asJsonMembers?_ofMembers : ∀ {members : List (String × Json)}, Json.DistinctKeysMembers members →
    asJsonMembers? (ofMembers members) = some members
  | [], _ => rfl
  | (k, v) :: members, h => by
    rw [ofMembers, asJsonMembers?, asJson?_ofJson h.1, asJsonMembers?_ofMembers h.2]
    rfl

end

end Content

end ApiValidators
