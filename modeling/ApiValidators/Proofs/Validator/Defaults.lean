import ApiValidators.Proofs.Schema.Values
import ApiValidators.Proofs.Validator.Building

/-!
# Defaults

A default becomes a literal, and nothing of it is lost on the way. A literal may have a key twice, which no value that
is read has (`Content.distinctKeys_of_asJson?`). Where keys are distinct, values and literals stand for one another
(`Literal.toJson_ofJson`, `Literal.ofJson_toJson`), and that is as far as it goes (`Schema.default_exact`). The modifier
with the default comes last, but for the mark of a value that is not required, whatever `allOf` has left in front of it
(`Schema.build_default`).
-/

namespace ApiValidators

/-! ## Distinct keys -/

namespace Literal

mutual

/-- No object of the literal, at any depth, has a key twice. -/
def DistinctKeys : Literal → Prop
  | array items => DistinctKeysEach items
  | object members => (Entries.names members).Nodup ∧ DistinctKeysMembers members
  | _ => True

def DistinctKeysEach : List Literal → Prop
  | [] => True
  | l :: ls => DistinctKeys l ∧ DistinctKeysEach ls

def DistinctKeysMembers : List (String × Literal) → Prop
  | [] => True
  | (_, l) :: ms => DistinctKeys l ∧ DistinctKeysMembers ms

end

/-! ## Values and literals -/

theorem names_ofMembers (members : List (String × Json)) :
    Entries.names (ofMembers members) = Entries.names members := by
  induction members with
  | nil => rfl
  | cons m ms ih => exact congrArg (m.1 :: ·) ih

theorem names_toMembers (members : List (String × Literal)) :
    Entries.names (toMembers members) = Entries.names members := by
  induction members with
  | nil => rfl
  | cons m ms ih => exact congrArg (m.1 :: ·) ih

mutual

theorem toJson_ofJson : ∀ {v : Json}, v.DistinctKeys → (ofJson v).toJson = v
  | .null, _ | .bool _, _ | .number _, _ | .string _, _ => rfl
  | .array _, h => congrArg Json.array (toItems_ofItems h)
  | .object members, h => by
    have hmembers : toMembers (ofMembers members) = members := toMembers_ofMembers h.2
    rw [ofJson, toJson, hmembers, Entries.collect_of_nodup h.1]

theorem toItems_ofItems : ∀ {items : List Json}, Json.DistinctKeysEach items → toItems (ofItems items) = items
  | [], _ => rfl
  | _ :: _, h => congrArg₂ List.cons (toJson_ofJson h.1) (toItems_ofItems h.2)

theorem toMembers_ofMembers : ∀ {members : List (String × Json)}, Json.DistinctKeysMembers members →
    toMembers (ofMembers members) = members
  | [], _ => rfl
  | (k, _) :: _, h => congrArg₂ List.cons (congrArg (k, ·) (toJson_ofJson h.1)) (toMembers_ofMembers h.2)

end

mutual

theorem ofJson_toJson : ∀ {l : Literal}, l.DistinctKeys → ofJson l.toJson = l
  | null, _ | bool _, _ | number _, _ | string _, _ => rfl
  | array _, h => congrArg array (ofItems_toItems h)
  | object members, h => by
    have hmembers : ofMembers (toMembers members) = members := ofMembers_toMembers h.2
    have hnames : (Entries.names (toMembers members)).Nodup := by
      rw [names_toMembers]
      exact h.1
    rw [toJson, Entries.collect_of_nodup hnames, ofJson, hmembers]

theorem ofItems_toItems : ∀ {items : List Literal}, DistinctKeysEach items → ofItems (toItems items) = items
  | [], _ => rfl
  | _ :: _, h => congrArg₂ List.cons (ofJson_toJson h.1) (ofItems_toItems h.2)

theorem ofMembers_toMembers : ∀ {members : List (String × Literal)}, DistinctKeysMembers members →
    ofMembers (toMembers members) = members
  | [], _ => rfl
  | (k, _) :: _, h => congrArg₂ List.cons (congrArg (k, ·) (ofJson_toJson h.1)) (ofMembers_toMembers h.2)

end

mutual

/-- The value of any literal has distinct keys. -/
theorem distinctKeys_toJson : ∀ l : Literal, l.toJson.DistinctKeys
  | null | bool _ | number _ | string _ => trivial
  | array items => distinctKeys_toItems items
  | object members => Json.distinctKeys_collect (distinctKeys_toMembers members)

theorem distinctKeys_toItems : ∀ items : List Literal, Json.DistinctKeysEach (toItems items)
  | [] => trivial
  | l :: items => ⟨distinctKeys_toJson l, distinctKeys_toItems items⟩

theorem distinctKeys_toMembers : ∀ members : List (String × Literal), Json.DistinctKeysMembers (toMembers members)
  | [] => trivial
  | (_, l) :: members => ⟨distinctKeys_toJson l, distinctKeys_toMembers members⟩

end

mutual

/-- The literal of a value has its keys. -/
theorem distinctKeys_ofJson : ∀ {v : Json}, v.DistinctKeys → (ofJson v).DistinctKeys
  | .null, _ | .bool _, _ | .number _, _ | .string _, _ => trivial
  | .array _, h => distinctKeys_ofItems h
  | .object members, h => ⟨(names_ofMembers members).symm ▸ h.1, distinctKeys_ofMembers h.2⟩

theorem distinctKeys_ofItems : ∀ {items : List Json}, Json.DistinctKeysEach items → DistinctKeysEach (ofItems items)
  | [], _ => trivial
  | _ :: _, h => ⟨distinctKeys_ofJson h.1, distinctKeys_ofItems h.2⟩

theorem distinctKeys_ofMembers : ∀ {members : List (String × Json)}, Json.DistinctKeysMembers members →
    DistinctKeysMembers (ofMembers members)
  | [], _ => trivial
  | _ :: _, h => ⟨distinctKeys_ofJson h.1, distinctKeys_ofMembers h.2⟩

end

theorem toJson_ofJson_iff (v : Json) : (ofJson v).toJson = v ↔ v.DistinctKeys := by
  refine ⟨fun h => ?_, toJson_ofJson⟩
  rw [← h]
  exact distinctKeys_toJson _

theorem ofJson_toJson_iff (l : Literal) : ofJson l.toJson = l ↔ l.DistinctKeys := by
  refine ⟨fun h => ?_, ofJson_toJson⟩
  rw [← h]
  exact distinctKeys_ofJson (distinctKeys_toJson l)

end Literal

/-! ## Defaults of bodies -/

/-- The default comes behind whatever takes in the branches of `allOf`, behind the merges, the format and the
constraints; only the mark comes behind it. -/
theorem Schema.build_default {b : Body Schema} {v : Json} (hv : b.default = some v)
    (h : ∀ expression, b.kind ≠ .raw expression) (mode : NullableMode) (required : Bool) : ∃ base before,
      (inline b).build mode required =
        .call base (before ++ [.ofLiteral "default" (.ofJson v)] ++ mode.modifiers required) := by
  have hdefault : b.defaultModifiers = [.ofLiteral "default" (.ofJson v)] := by
    rw [Keywords.defaultModifiers, hv]
    rfl
  have hown : b.ownModifiers mode required =
      b.formatModifiers ++ b.constraints ++ [.ofLiteral "default" (.ofJson v)] ++ mode.modifiers required := by
    rw [Keywords.ownModifiers, hdefault]
  refine ⟨(b.mergePoint mode).1.base, (b.mergePoint mode).1.modifiers ++
    ((b.mergePoint mode).2.map (Modifier.ofExpr "merge") ++ (b.formatModifiers ++ b.constraints)), ?_⟩
  rw [build_inline_eq_chain h, hown, Expr.chain]
  simp only [List.append_assoc]

/-- **Defaults survive unchanged.** A value comes back from its literal exactly if it has no key twice, and no value
that is read has; a literal comes back from its value exactly if it has no key twice. Unless a raw expression stands for
a body with a default, what is built for it ends, but for the mark, with the modifier of the default, whose one argument
stands for the same value. -/
theorem Schema.default_exact :
    (∀ v : Json, (Literal.ofJson v).toJson = v ↔ v.DistinctKeys) ∧
    (∀ (c : Content) v, c.asJson? = some v → v.DistinctKeys) ∧
    (∀ l : Literal, Literal.ofJson l.toJson = l ↔ l.DistinctKeys) ∧
    ∀ (b : Body Schema) v, b.default = some v → v.DistinctKeys → (∀ expression, b.kind ≠ .raw expression) →
      ∀ mode required, ∃ base before l,
        (inline b).build mode required =
          .call base (before ++ [⟨"default", [.literal l]⟩] ++ mode.modifiers required) ∧
        l.toJson = v := by
  refine ⟨Literal.toJson_ofJson_iff, fun _ _ => Content.distinctKeys_of_asJson?, Literal.ofJson_toJson_iff, ?_⟩
  intro b v hv hkeys hkind mode required
  obtain ⟨base, before, hbuild⟩ := build_default hv hkind mode required
  exact ⟨base, before, .ofJson v, hbuild, Literal.toJson_ofJson hkeys⟩

/-- A default with a null and with the same key at two depths. -/
def label : Json := .object [("text", .null), ("parts", .array [.object [("text", .string "a")]])]

/-- A body whose start gives way to a branch with a default of its own. -/
def parcel : Body Schema where
  type := some (.one "string")
  minLength := some (.whole 1)
  allOf := [.inline { default := some .null }]
  default := some label

/-- Both defaults are there, the body's own one last. -/
theorem default_exact_parcel : parcel.default = some label ∧ label.DistinctKeys ∧
    (∀ expression, parcel.kind ≠ .raw expression) ∧
    ((Schema.inline parcel).build .nullish false).modifierNames = ["default", "min", "default", "nullish"] ∧
    ∃ base before l,
      (Schema.inline parcel).build .nullish false =
        .call base (before ++ [⟨"default", [.literal l]⟩] ++ [⟨"nullish", []⟩]) ∧
      l.toJson = label := by
  obtain ⟨hvalue, -, -, hbuild⟩ := Schema.default_exact
  have hkeys : label.DistinctKeys := (hvalue label).1 rfl
  have hkind : ∀ expression, parcel.kind ≠ .raw expression := fun _ => Kind.noConfusion
  exact ⟨rfl, hkeys, hkind, rfl, hbuild parcel label rfl hkeys hkind .nullish false⟩

/-- A literal that has a key twice comes back with its last value alone. -/
example : Literal.ofJson (Literal.object [("a", .null), ("b", .null), ("a", .bool true)]).toJson =
    .object [("a", .bool true), ("b", .null)] := rfl

end ApiValidators
