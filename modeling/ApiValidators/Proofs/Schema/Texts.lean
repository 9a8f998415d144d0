import ApiValidators.Json.Text
import ApiValidators.Proofs.Schema.Members

/-!
# Values of JSON text

JSON text is put together token by token, and read as content. What is put together are trees of values
(`Tree.HoldsValue`), whatever state the tokens have led to (`step_sound`, `foldlM_step_sound`), so the content of a text
is that of a value (`content?_eq_ofJson`).
-/

namespace ApiValidators

namespace Reader

/-! ## What readers return -/

variable {α β : Type}

/-- Whether everything that a reader returns has a property. -/
def Ensures (P : α → Prop) (r : Reader α) : Prop := ∀ n a n', r.run n = some (a, n') → P a

theorem ensures_pure {P : α → Prop} {a : α} (h : P a) : Ensures P (pure a) := by
  rintro n _ _ ⟨⟩
  exact h

theorem ensures_failure {P : α → Prop} : Ensures P (failure : Reader α) := by
  rintro n a n' ⟨⟩

theorem Ensures.bind {P : α → Prop} {Q : β → Prop} {r : Reader α} {f : α → Reader β} (h : Ensures P r)
    (hf : ∀ a, P a → Ensures Q (f a)) : Ensures Q (r >>= f) := by
  intro n b n' hb
  rw [StateT.run_bind, Option.bind_eq_bind, Option.bind_eq_some_iff] at hb
  obtain ⟨⟨a, m⟩, ha, hb⟩ := hb
  exact hf a (h n a m ha) m b n' hb

/-- If everything that is read is of one form, so is the whole list. -/
theorem ensures_mapM {γ : Type} {xs : List α} {f : α → Reader β} {g : γ → β}
    (h : ∀ x ∈ xs, Ensures (fun b => ∃ c, b = g c) (f x)) :
    Ensures (fun bs => ∃ cs : List γ, bs = cs.map g) (xs.mapM f) := by
  induction xs with
  | nil => exact ensures_pure ⟨[], rfl⟩
  | cons x xs ih =>
    obtain ⟨hx, hxs⟩ := List.forall_mem_cons.1 h
    rw [List.mapM_cons]
    refine hx.bind ?_
    rintro _ ⟨c, rfl⟩
    refine (ih hxs).bind ?_
    rintro _ ⟨cs, rfl⟩
    exact ensures_pure ⟨c :: cs, rfl⟩

end Reader

/-! ## Trees of values -/

def Tree.IsKey (t : Tree) : Prop := ∃ s, t = .leaf (Json.stringLeaf s)

/-- A tree that is made of values: scalars, and collections whose keys are texts. -/
inductive Tree.HoldsValue : Tree → Prop where
  | leaf {l : Leaf} : (∀ c, l.content = some c → ∃ v, c = Content.ofJson v) → HoldsValue (.leaf l)
  | list {items : List Tree} : (∀ t ∈ items, HoldsValue t) → HoldsValue (.list true items)
  | map {members : List (Tree × Tree)} : (∀ m ∈ members, m.1.IsKey) → (∀ m ∈ members, HoldsValue m.2) →
      HoldsValue (.map true members)

namespace Source

-- The levels are looked at together with what an alias stands for, so the definition is opened by `delta`.

theorem content_leaf (src : Source) (levels : Nat) (l : Leaf) :
    src.content levels (.leaf l) = l.content.elim failure pure := by
  delta content
  cases levels <;> rfl

theorem content_list_zero (src : Source) (items : List Tree) : src.content 0 (.list true items) = failure := by
  delta content
  rfl

theorem content_list (src : Source) (left : Nat) (items : List Tree) :
    src.content (left + 1) (.list true items) = (do return .list (← items.mapM (src.content left))) := by
  delta content
  rfl

theorem content_map_zero (src : Source) (members : List (Tree × Tree)) :
    src.content 0 (.map true members) = failure := by
  delta content
  rfl

theorem content_map (src : Source) (left : Nat) (members : List (Tree × Tree)) :
    src.content (left + 1) (.map true members) =
      (do return .map (← members.mapM fun (k, v) => do return (← src.content left k, ← src.content left v))) := by
  delta content
  rfl

theorem ensures_leaf (src : Source) (levels : Nat) {l : Leaf} {P : Content → Prop}
    (h : ∀ c, l.content = some c → P c) : Reader.Ensures P (src.content levels (.leaf l)) := by
  rw [content_leaf]
  cases hc : l.content with
  | none => exact Reader.ensures_failure
  | some c => exact Reader.ensures_pure (h c hc)

theorem ensures_key (src : Source) (levels : Nat) {t : Tree} (h : t.IsKey) :
    Reader.Ensures (fun c => ∃ s, c = .text s) (src.content levels t) := by
  obtain ⟨s, rfl⟩ := h
  apply ensures_leaf
  intro c hc
  obtain ⟨text, -, rfl⟩ := Option.map_eq_some_iff.1 hc
  exact ⟨text, rfl⟩

/-- **A tree of values is read as a value**, if it is read at all. -/
theorem ensures_value (src : Source) {levels : Nat} {t : Tree} (h : t.HoldsValue) :
    Reader.Ensures (fun c => ∃ v, c = Content.ofJson v) (src.content levels t) := by
  induction levels generalizing t with
  | zero =>
    cases h with
    | leaf hl => exact src.ensures_leaf 0 hl
    | list _ =>
      rw [content_list_zero]
      exact Reader.ensures_failure
    | map _ _ =>
      rw [content_map_zero]
      exact Reader.ensures_failure
  | succ left ih =>
    cases h with
    | leaf hl => exact src.ensures_leaf _ hl
    | list hitems =>
      rw [content_list]
      refine (Reader.ensures_mapM fun t ht => ih (hitems t ht)).bind ?_
      rintro _ ⟨items, rfl⟩
      exact Reader.ensures_pure ⟨.array items, congrArg Content.list (Content.ofItems_eq_map items).symm⟩
    | @map members hkeys hvalues =>
      have hmember : ∀ m ∈ members, Reader.Ensures
          (fun entry => ∃ p : String × Json, entry = (Content.text p.1, Content.ofJson p.2))
          (do return (← src.content left m.1, ← src.content left m.2)) := by
        intro m hm
        refine (src.ensures_key left (hkeys m hm)).bind ?_
        rintro _ ⟨s, rfl⟩
        refine (ih (hvalues m hm)).bind ?_
        rintro _ ⟨v, rfl⟩
        exact Reader.ensures_pure ⟨(s, v), rfl⟩
      rw [content_map]
      refine (Reader.ensures_mapM hmember).bind ?_
      rintro _ ⟨ms, rfl⟩
      exact Reader.ensures_pure ⟨.object ms, congrArg Content.map (Content.ofMembers_eq_map ms).symm⟩

end Source

namespace Json

/-! ## Tokens -/

/-- Whether an open collection holds values so far. -/
def Frame.Sound : Frame → Prop
  | .items done => ∀ t ∈ done, t.HoldsValue
  | .members done key => (∀ m ∈ done, m.1.IsKey) ∧ (∀ m ∈ done, m.2.HoldsValue) ∧ ∀ k ∈ key, k.IsKey

/-- Whether what is complete is a value, and what is open holds values. -/
def Assembly.Sound (a : Assembly) : Prop := (∀ t, a.1 = .nothing t → t.HoldsValue) ∧ ∀ f ∈ a.2, f.Sound

theorem place_sound {t : Tree} {outer : List Frame} {a : Assembly} (ht : t.HoldsValue) (houter : ∀ f ∈ outer, f.Sound)
    (h : place t outer = some a) : Assembly.Sound a := by
  unfold place at h
  split at h
  · obtain ⟨⟩ := h
    refine ⟨?_, houter⟩
    rintro _ ⟨⟩
    exact ht
  · obtain ⟨⟩ := h
    obtain ⟨hdone, houter⟩ := List.forall_mem_cons.1 houter
    exact ⟨fun _ => Expected.noConfusion, List.forall_mem_cons.2 ⟨List.forall_mem_cons.2 ⟨ht, hdone⟩, houter⟩⟩
  · next done key outer =>
    obtain ⟨⟩ := h
    obtain ⟨⟨hkeys, hvalues, hkey⟩, houter⟩ := List.forall_mem_cons.1 houter
    refine ⟨fun _ => Expected.noConfusion, List.forall_mem_cons.2 ⟨⟨?_, ?_, ?_⟩, houter⟩⟩
    · exact List.forall_mem_cons.2 ⟨hkey key rfl, hkeys⟩
    · exact List.forall_mem_cons.2 ⟨ht, hvalues⟩
    · rintro _ ⟨⟩
  · cases h

theorem closeList_sound {outer : List Frame} {a : Assembly} (houter : ∀ f ∈ outer, f.Sound)
    (h : closeList outer = some a) : Assembly.Sound a := by
  unfold closeList at h
  split at h
  · obtain ⟨hdone, houter⟩ := List.forall_mem_cons.1 houter
    exact place_sound (.list fun t ht => hdone t (List.mem_reverse.1 ht)) houter h
  · cases h

theorem closeMap_sound {outer : List Frame} {a : Assembly} (houter : ∀ f ∈ outer, f.Sound)
    (h : closeMap outer = some a) : Assembly.Sound a := by
  unfold closeMap at h
  split at h
  · obtain ⟨⟨hkeys, hvalues, -⟩, houter⟩ := List.forall_mem_cons.1 houter
    exact place_sound (.map (fun m hm => hkeys m (List.mem_reverse.1 hm)) fun m hm => hvalues m (List.mem_reverse.1 hm))
      houter h
  · cases h

theorem ofJson_number (n : Number) : Content.ofJson (.number n) = numberContent n := by
  cases n <;> rfl

theorem leaf?_holdsValue {t : Token} {l : Leaf} (h : leaf? t = some l) : (Tree.leaf l).HoldsValue := by
  refine .leaf fun c hc => ?_
  cases t with
  | null =>
    cases h
    cases hc
    exact ⟨.null, rfl⟩
  | bool b =>
    cases h
    cases hc
    exact ⟨.bool b, rfl⟩
  | number n =>
    cases h
    obtain ⟨m, -, rfl⟩ := Option.map_eq_some_iff.1 hc
    exact ⟨.number m, (ofJson_number m).symm⟩
  | string s =>
    cases h
    obtain ⟨text, -, rfl⟩ := Option.map_eq_some_iff.1 hc
    exact ⟨.string text, rfl⟩
  | openBrace | closeBrace | openBracket | closeBracket | colon | comma => cases h

/-- **A token keeps what is put together sound.** -/
theorem step_sound {a a' : Assembly} {t : Token} (ha : a.Sound) (h : step a t = some a') : a'.Sound := by
  obtain ⟨-, houter⟩ := ha
  unfold step at h
  split at h
  case h_1 | h_2 =>
    -- a collection opens
    cases h
    refine ⟨nofun, List.forall_mem_cons.2 ⟨?_, houter⟩⟩
    simp [Frame.Sound]
  case h_3 | h_10 => exact closeList_sound houter h
  case h_6 | h_11 => exact closeMap_sound houter h
  case h_4 =>
    obtain ⟨l, hl, hplace⟩ := Option.bind_eq_some_iff.1 h
    exact place_sound (leaf?_holdsValue hl) houter hplace
  case h_5 =>
    -- a key waits for its value
    cases h
    obtain ⟨⟨hkeys, hvalues, -⟩, houter⟩ := List.forall_mem_cons.1 houter
    refine ⟨nofun, List.forall_mem_cons.2 ⟨⟨hkeys, hvalues, ?_⟩, houter⟩⟩
    rintro _ ⟨⟩
    exact ⟨_, rfl⟩
  case h_7 | h_8 | h_9 =>
    cases h
    exact ⟨nofun, houter⟩
  case h_12 => cases h

/-- Tokens keep what is put together sound. -/
theorem foldlM_step_sound {a a' : Assembly} {ts : List Token} (ha : a.Sound) (h : ts.foldlM step a = some a') :
    a'.Sound := by
  induction ts generalizing a with
  | nil =>
    cases h
    exact ha
  | cons t ts ih =>
    rw [List.foldlM_cons] at h
    obtain ⟨b, hb, h⟩ := Option.bind_eq_some_iff.1 h
    exact ih (step_sound ha hb) h

theorem tree?_holdsValue {input : Input} {t : Tree} (h : tree? input = some t) : t.HoldsValue := by
  unfold tree? at h
  obtain ⟨ts, -, h⟩ := Option.bind_eq_some_iff.1 h
  obtain ⟨a, ha, h⟩ := Option.bind_eq_some_iff.1 h
  have hstart : Assembly.Sound (.value false, []) := ⟨nofun, nofun⟩
  split at h
  · cases h
    exact (foldlM_step_sound hstart ha).1 t rfl
  · cases h

/-- **The content of JSON text is that of a value.** -/
theorem content?_eq_ofJson {text : String} {c : Content} (h : content? text = some c) :
    ∃ v, c = Content.ofJson v := by
  obtain ⟨src, hsrc, hread⟩ := Option.bind_eq_some_iff.1 h
  obtain ⟨root, hroot, rfl⟩ := Option.map_eq_some_iff.1 hsrc
  obtain ⟨⟨_, left⟩, hrun, rfl⟩ := Option.map_eq_some_iff.1 hread
  exact Source.ensures_value _ (tree?_holdsValue hroot) _ _ _ hrun

end Json

/-- A schema in JSON text is read from a value, so what holds of schemas that values are read as holds of it. -/
theorem Schema.exists_ofJson?_of_text {text : String} {s : Schema}
    (h : (Json.content? text).bind ofContent? = some s) : ∃ v, ofJson? v = some s := by
  obtain ⟨c, hc, hs⟩ := Option.bind_eq_some_iff.1 h
  obtain ⟨v, rfl⟩ := Json.content?_eq_ofJson hc
  exact ⟨v, hs⟩

end ApiValidators
