import ApiValidators.Schema.Reading
import Mathlib.Data.Option.Basic
import Mathlib.Tactic.Common

/-!
# What a schema is read from

A schema is read from the fields of an object, each of them in its own way (`Slot`): as a schema, as a list or a map of
schemas, or as a plain value. Readings agree in a slot if nothing that is looked at there tells them apart, and fields
that agree name by name give the same schema (`schema?_congr`).
-/

namespace ApiValidators

/-- What a value below a schema is read as. -/
inductive Slot where
  | schema
  | schemas
  | properties
  | plain
  deriving DecidableEq

def Slot.ofKeyword : String → Slot
  | "items" | "additionalProperties" => schema
  | "allOf" | "anyOf" | "oneOf" => schemas
  | "properties" => properties
  | _ => plain

namespace Reading

/-! ## Readings that agree -/

/-- Whether two readings are the same as far as a slot can tell. Where a schema is expected, a null or a flag may stand
in its stead. -/
def Agree : Slot → Reading → Reading → Prop
  | .schema, r, q =>
    r.schema = q.schema ∧ r.content.asBool? = q.content.asBool? ∧ (r.content = .null ↔ q.content = .null)
  | .schemas, r, q => r.schemas = q.schemas
  | .properties, r, q => r.properties = q.properties
  | .plain, r, q => r.content = q.content

theorem Agree.refl (p : Slot) (r : Reading) : Agree p r r := by
  cases p <;> simp [Agree]

/-- Whether fields have the same names, and agree name by name. -/
def FieldsAgree (fs gs : List (String × Reading)) : Prop :=
  ∀ name, Option.Rel (Agree (.ofKeyword name)) (Entries.get? name fs) (Entries.get? name gs)

theorem FieldsAgree.refl (fs : List (String × Reading)) : FieldsAgree fs fs := by
  intro name
  cases Entries.get? name fs with
  | none => exact .none
  | some r => exact .some (Agree.refl _ r)

theorem FieldsAgree.replace {name : String} {r q : Reading} (h : Agree (.ofKeyword name) r q)
    (before after : List (String × Reading)) :
    FieldsAgree (before ++ (name, r) :: after) (before ++ (name, q) :: after) := by
  intro k
  rw [Entries.get?_append, Entries.get?_append]
  cases Entries.get? k before with
  | some s => exact .some (Agree.refl _ s)
  | none =>
    by_cases hk : name = k
    · subst hk
      simpa [Entries.get?] using Option.Rel.some h
    · simpa [Entries.get?, hk] using FieldsAgree.refl after k

theorem FieldsAgree.none_or_some {fs gs : List (String × Reading)} (h : FieldsAgree fs gs) (name : String) :
    (Entries.get? name fs = none ∧ Entries.get? name gs = none) ∨
      ∃ r q, Entries.get? name fs = some r ∧ Entries.get? name gs = some q ∧ Agree (.ofKeyword name) r q := by
  have hname := h name
  generalize Entries.get? name fs = f at *
  generalize Entries.get? name gs = g at *
  cases hname with
  | none => exact .inl ⟨rfl, rfl⟩
  | some hr => exact .inr ⟨_, _, rfl, rfl, hr⟩

/-! ## Fields that agree -/

section

variable {α : Type} {fs gs : List (String × Reading)} {name : String}

theorem optional_congr (h : FieldsAgree fs gs) (hname : Slot.ofKeyword name = .plain) (f : Content → Option α) :
    optional fs name f = optional gs name f := by
  unfold optional
  rcases h.none_or_some name with ⟨hf, hg⟩ | ⟨r, q, hf, hg, hr⟩
  · rw [hf, hg]
  · rw [hname] at hr
    have hcontent : r.content = q.content := hr
    rw [hf, hg]
    exact congrArg (Content.asOption? f) hcontent

theorem collection_congr (h : FieldsAgree fs gs) {f : Reading → Option (List α)}
    (hf : ∀ r q, Agree (.ofKeyword name) r q → f r = f q) : collection fs name f = collection gs name f := by
  unfold collection
  rcases h.none_or_some name with ⟨hfs, hgs⟩ | ⟨r, q, hfs, hgs, hr⟩
  · rw [hfs, hgs]
  · rw [hfs, hgs]
    exact hf r q hr

theorem optionalSchema_of_null {r : Reading} (hr : Entries.get? name fs = some r) (h : r.content = .null) :
    optionalSchema fs name = some none := by
  obtain ⟨c, s⟩ := r
  subst h
  rw [optionalSchema, hr]

theorem optionalSchema_of_ne_null {r : Reading} (hr : Entries.get? name fs = some r) (h : r.content ≠ .null) :
    optionalSchema fs name = r.schema.map some := by
  rw [optionalSchema, hr]
  split
  · contradiction
  · next heq =>
    cases heq
    exact absurd rfl h
  · next heq =>
    cases heq
    rfl

theorem optionalSchema_congr (h : FieldsAgree fs gs) (hname : Slot.ofKeyword name = .schema) :
    optionalSchema fs name = optionalSchema gs name := by
  rcases h.none_or_some name with ⟨hf, hg⟩ | ⟨r, q, hf, hg, hr⟩
  · rw [optionalSchema, optionalSchema, hf, hg]
  · rw [hname] at hr
    obtain ⟨hschema, -, hnull⟩ := hr
    by_cases hc : r.content = .null
    · rw [optionalSchema_of_null hf hc, optionalSchema_of_null hg (hnull.1 hc)]
    · rw [optionalSchema_of_ne_null hf hc, optionalSchema_of_ne_null hg (mt hnull.2 hc), hschema]

theorem extras?_of_null {r : Reading} (hr : Entries.get? "additionalProperties" fs = some r) (h : r.content = .null) :
    extras? fs = some none := by
  obtain ⟨c, s⟩ := r
  subst h
  rw [extras?, hr]

theorem extras?_of_ne_null {r : Reading} (hr : Entries.get? "additionalProperties" fs = some r)
    (h : r.content ≠ .null) :
    extras? fs = ((r.content.asBool?.map .flag).or (r.schema.map .each)).map some := by
  rw [extras?, hr]
  split
  · contradiction
  · next heq =>
    cases heq
    exact absurd rfl h
  · next heq =>
    cases heq
    rfl

theorem extras?_congr (h : FieldsAgree fs gs) : extras? fs = extras? gs := by
  rcases h.none_or_some "additionalProperties" with ⟨hf, hg⟩ | ⟨r, q, hf, hg, hschema, hflag, hnull⟩
  · rw [extras?, extras?, hf, hg]
  · by_cases hc : r.content = .null
    · rw [extras?_of_null hf hc, extras?_of_null hg (hnull.1 hc)]
    · rw [extras?_of_ne_null hf hc, extras?_of_ne_null hg (mt hnull.2 hc), hschema, hflag]

/-- **Fields that agree give the same body.** -/
theorem body?_congr (h : FieldsAgree fs gs) : body? fs = body? gs := by
  have hschemas : ∀ name, Slot.ofKeyword name = .schemas →
      collection fs name Reading.schemas = collection gs name Reading.schemas := by
    intro name hname
    refine collection_congr h fun r q hr => ?_
    rw [hname] at hr
    exact hr
  have hproperties : collection fs "properties" Reading.properties = collection gs "properties" Reading.properties :=
    collection_congr h fun r q hr => hr
  have hrequired : collection fs "required" (·.content.asTexts?) = collection gs "required" (·.content.asTexts?) :=
    collection_congr h fun r q hr => congrArg Content.asTexts? hr
  unfold body?
  simp (disch := decide) only [optional_congr h, optionalSchema_congr h, hschemas, hproperties, hrequired,
    extras?_congr h]
  rcases h.none_or_some "default" with ⟨hf, hg⟩ | ⟨r, q, hf, hg, hr⟩
  · simp only [hf, hg]
  · have hcontent : r.content = q.content := hr
    simp only [hf, hg, hcontent]

theorem pointer?_congr (h : FieldsAgree fs gs) : pointer? fs = pointer? gs := by
  unfold pointer?
  rcases h.none_or_some "$ref" with ⟨hf, hg⟩ | ⟨r, q, hf, hg, hr⟩
  · rw [hf, hg]
  · rw [hf, hg]
    exact congrArg Content.asText? hr

/-- **Fields that agree give the same schema**, as references and as bodies count them. -/
theorem schema?_congr {ref ref' body body' : Option (List (String × Reading))} (href : Option.Rel FieldsAgree ref ref')
    (hbody : Option.Rel FieldsAgree body body') : schema? ref body = schema? ref' body' := by
  have hpointer : ref.bind pointer? = ref'.bind pointer? := by
    cases href with
    | none => rfl
    | some h => exact pointer?_congr h
  have hread : body.bind body? = body'.bind body? := by
    cases hbody with
    | none => rfl
    | some h => exact body?_congr h
  rw [schema?, schema?, hpointer, hread]

/-- The default of a body is the value under its keyword. Where the keyword is missing there is none. -/
theorem default_of_body? {b : Body Schema} (h : body? fs = some b) :
    (Entries.get? "default" fs = none ∧ b.default = none) ∨
      ∃ r v, Entries.get? "default" fs = some r ∧ r.content.asJson? = some v ∧ b.default = some v := by
  unfold body? at h
  -- eighteen fields come before the default
  iterate 18 obtain ⟨_, -, h⟩ := Option.bind_eq_some_iff.1 h
  cases hf : Entries.get? "default" fs with
  | none =>
    rw [hf] at h
    obtain ⟨_, ⟨⟩, h⟩ := Option.bind_eq_some_iff.1 h
    obtain ⟨_, -, ⟨⟩⟩ := Option.bind_eq_some_iff.1 h
    exact .inl ⟨rfl, rfl⟩
  | some r =>
    rw [hf] at h
    obtain ⟨_, hread, h⟩ := Option.bind_eq_some_iff.1 h
    obtain ⟨v, hv, rfl⟩ := Option.map_eq_some_iff.1 hread
    obtain ⟨_, -, ⟨⟩⟩ := Option.bind_eq_some_iff.1 h
    exact .inr ⟨r, v, rfl, hv, rfl⟩

end

end Reading

end ApiValidators
