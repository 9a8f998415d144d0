import ApiValidators.Validator.Builder
import Mathlib.Data.List.DropRight
import Mathlib.Data.List.Infix

/-!
# What is read out of a description

A description is cut at its markers and nowhere else (`comment_raw_exact`): the comment is what stands in front of the
first one, the raw expression what stands between that and the next one, both without the blanks at their ends. The
reason is that a marker does not overlap with itself (`eq_marker_of_border`), so that where a text without markers meets
one, no other marker comes about.
-/

namespace ApiValidators.Remark

open Text

/-! ## Where markers stand -/

/-- Only the whole of a marker both ends and starts a marker. -/
theorem eq_marker_of_border {border : List Char} (hne : border ≠ []) (hends : border <:+ marker)
    (hstarts : border <+: marker) : border = marker := by
  have hall : ∀ r ∈ marker.tails, r ≠ [] → r <+: marker → r = marker := by decide
  exact hall border ((List.mem_tails ..).2 hends) hne hstarts

/-- What can stand behind a text that is free of markers: nothing more, or a marker. -/
def Follows (tail : List Char) : Prop := tail = [] ∨ marker <+: tail

/-- No marker starts in a text without markers and goes on behind it. -/
theorem not_prefix_of_follows {text tail : List Char} (hfree : ¬ marker <:+: text) (hne : text ≠ [])
    (htail : Follows tail) : ¬ marker <+: text ++ tail := by
  intro h
  rcases List.prefix_or_prefix_of_prefix h (List.prefix_append text tail) with hin | ⟨border, hborder⟩
  · exact hfree hin.isInfix
  · -- the text is the first part of a marker, and the rest of that marker starts what stands behind
    have hrest : border <+: tail := by
      rw [← hborder] at h
      exact (List.prefix_append_right_inj text).1 h
    have hends : border <:+ marker := ⟨text, hborder⟩
    have hb : border ≠ [] := by
      rintro rfl
      rw [List.append_nil] at hborder
      exact hfree (hborder ▸ List.infix_rfl)
    rcases htail with rfl | hmark
    · exact hb (List.prefix_nil.1 hrest)
    · have hstarts := List.prefix_of_prefix_length_le hrest hmark hends.length_le
      rw [eq_marker_of_border hb hends hstarts] at hborder
      exact hne (List.append_left_eq_self.1 hborder)

theorem exists_first_marker {text : List Char} (h : marker <:+: text) :
    ∃ front rest, ¬ marker <:+: front ∧ text = front ++ (marker ++ rest) := by
  induction text with
  | nil => exact absurd h (by decide)
  | cons c text ih =>
    by_cases hhere : marker <+: c :: text
    · obtain ⟨rest, hrest⟩ := hhere
      exact ⟨[], rest, by decide, hrest.symm⟩
    · obtain ⟨front, rest, hfree, rfl⟩ := ih ((List.infix_cons_iff.1 h).resolve_left hhere)
      refine ⟨c :: front, rest, fun hin => ?_, rfl⟩
      rcases List.infix_cons_iff.1 hin with hstart | hin
      · exact hhere (hstart.trans (List.prefix_append (c :: front) _))
      · exact hfree hin

/-- Every text is free of markers up to its end or up to a marker. -/
theorem exists_free_part (text : List Char) :
    ∃ part tail, ¬ marker <:+: part ∧ Follows tail ∧ text = part ++ tail := by
  by_cases h : marker <:+: text
  · obtain ⟨part, rest, hfree, rfl⟩ := exists_first_marker h
    exact ⟨part, marker ++ rest, hfree, .inr (List.prefix_append ..), rfl⟩
  · exact ⟨text, [], h, .inl rfl, (List.append_nil text).symm⟩

/-! ## Splitting -/

/-- A text without markers is read into the part that is open. -/
theorem splitFrom_append {text tail : List Char} (part : List Char) (hfree : ¬ marker <:+: text)
    (htail : Follows tail) : splitFrom part 0 (text ++ tail) = splitFrom (text.reverse ++ part) 0 tail := by
  induction text generalizing part with
  | nil => rfl
  | cons c text ih =>
    have hhere : marker.isPrefixOf (c :: (text ++ tail)) = false := by
      rw [Bool.eq_false_iff, Ne, List.isPrefixOf_iff_prefix]
      exact not_prefix_of_follows hfree (List.cons_ne_nil c text) htail
    have hrest : ¬ marker <:+: text := fun h => hfree (List.infix_cons h)
    rw [List.cons_append, splitFrom, hhere, if_neg Bool.false_ne_true, ih (c :: part) hrest]
    simp

theorem splitFrom_marker (part rest : List Char) :
    splitFrom part 0 (marker ++ rest) = part.reverse :: splitFrom [] 0 rest := rfl

theorem split_of_free {text : List Char} (hfree : ¬ marker <:+: text) : split text = [text] := by
  have h := splitFrom_append [] hfree (.inl rfl : Follows [])
  simpa [split, splitFrom] using h

/-- What stands in front of the first marker is the first part. -/
theorem split_marker {front : List Char} (hfree : ¬ marker <:+: front) (rest : List Char) :
    split (front ++ (marker ++ rest)) = front :: split rest := by
  rw [split, splitFrom_append [] hfree (.inr (List.prefix_append ..)), splitFrom_marker]
  simp [split]

theorem head?_split {part tail : List Char} (hfree : ¬ marker <:+: part) (htail : Follows tail) :
    (split (part ++ tail)).head? = some part := by
  rcases htail with rfl | ⟨rest, rfl⟩
  · rw [List.append_nil, split_of_free hfree, List.head?_cons]
  · rw [split_marker hfree, List.head?_cons]

/-! ## Trimming -/

/-- What is left of a text without the blanks at its ends; nothing of a blank one. -/
inductive Leaves : List Char → Option String → Prop where
  | nothing {text : List Char} : (∀ c ∈ text, isBlank c = true) → Leaves text none
  | kept {before kept after : List Char} : (∀ c ∈ before, isBlank c = true) → (∀ c ∈ after, isBlank c = true) →
    kept ≠ [] → (∀ c ∈ kept.head?, isBlank c = false) → (∀ c ∈ kept.getLast?, isBlank c = false) →
    Leaves (before ++ kept ++ after) (some (String.ofList kept))

theorem nonBlank_of_trim_ne_nil {text : List Char} (h : trim text ≠ []) :
    nonBlank text = some (String.ofList (trim text)) := by
  unfold nonBlank
  split
  · next hnil => exact absurd hnil h
  · rfl

theorem trim_append_blanks (text : List Char) : trim text ++ (trimStart text).rtakeWhile isBlank = trimStart text :=
  List.rdropWhile_append_rtakeWhile ..

theorem append_trim_append (text : List Char) :
    text.takeWhile isBlank ++ trim text ++ (trimStart text).rtakeWhile isBlank = text := by
  rw [List.append_assoc, trim_append_blanks]
  exact List.takeWhile_append_dropWhile

theorem not_isBlank_of_head?_trim {text : List Char} {c : Char} (h : (trim text).head? = some c) : isBlank c = false := by
  -- cutting at the end leaves the first character where it is
  have hhead : (trimStart text).head? = some c := by
    rw [← trim_append_blanks, List.head?_append, h, Option.some_or]
  have hnot := List.head?_dropWhile_not isBlank text
  rw [trimStart] at hhead
  simpa only [hhead] using hnot

theorem not_isBlank_of_getLast?_trim {text : List Char} {c : Char} (h : (trim text).getLast? = some c) :
    isBlank c = false := by
  have hne : trim text ≠ [] := fun hnil => by simp [hnil] at h
  obtain rfl : (trim text).getLast hne = c := by simpa [List.getLast?_eq_some_getLast hne] using h
  exact Bool.eq_false_iff.2 (List.rdropWhile_last_not isBlank (trimStart text) hne)

theorem leaves_nonBlank (text : List Char) : Leaves text (nonBlank text) := by
  have hfront : ∀ c ∈ text.takeWhile isBlank, isBlank c = true := fun _ hc => List.mem_takeWhile_imp hc
  have hback : ∀ c ∈ (trimStart text).rtakeWhile isBlank, isBlank c = true := fun _ hc => List.mem_rtakeWhile_imp hc
  have htext := append_trim_append text
  by_cases hne : trim text = []
  · have hnone : nonBlank text = none := by simp [nonBlank, hne]
    rw [hnone]
    refine .nothing ?_
    rw [← htext, hne, List.append_nil]
    exact List.forall_mem_append.2 ⟨hfront, hback⟩
  · rw [nonBlank_of_trim_ne_nil hne]
    have hleaves : Leaves (text.takeWhile isBlank ++ trim text ++ (trimStart text).rtakeWhile isBlank)
        (some (String.ofList (trim text))) :=
      .kept hfront hback hne (fun _ hc => not_isBlank_of_head?_trim hc) (fun _ hc => not_isBlank_of_getLast?_trim hc)
    rwa [htext] at hleaves

theorem Leaves.isInfix {text : List Char} {left : String} (h : Leaves text (some left)) : left.toList <:+: text := by
  cases h with
  | kept => exact ⟨_, _, by rw [String.toList_ofList]⟩

/-- What is left of a text without markers has no marker in it. -/
theorem free_of_nonBlank {text : List Char} {left : String} (hfree : ¬ marker <:+: text)
    (h : nonBlank text = some left) : ¬ marker <:+: left.toList :=
  fun hin => hfree (hin.trans (h ▸ leaves_nonBlank text).isInfix)

/-! ## Descriptions -/

theorem comment_raw_of_marker {front payload tail : List Char} (hfront : ¬ marker <:+: front)
    (hpayload : ¬ marker <:+: payload) (htail : Follows tail) {description : String}
    (h : description.toList = front ++ (marker ++ (payload ++ tail))) :
    comment description = nonBlank front ∧ raw description = nonBlank payload := by
  have hsplit : split description.toList = front :: split (payload ++ tail) := by rw [h, split_marker hfront]
  constructor
  · rw [comment, hsplit, List.head?_cons, Option.bind_some]
  · rw [raw, hsplit, List.getElem?_cons_succ, ← List.head?_eq_getElem?, head?_split hpayload htail, Option.bind_some]

theorem comment_raw_of_free {description : String} (hfree : ¬ marker <:+: description.toList) :
    comment description = nonBlank description.toList ∧ raw description = none := by
  rw [comment, raw, split_of_free hfree]
  exact ⟨rfl, rfl⟩

/-- **A description is cut at its markers.** Around the first marker, whose payload goes up to the next one, the comment
is the text in front and the raw expression the payload; without a marker all is comment, and nothing is raw. Both are
trimmed, and missing when they are blank; neither has a marker in it, whatever the description. -/
theorem comment_raw_exact :
    (∀ front payload tail : List Char, ¬ marker <:+: front → ¬ marker <:+: payload → tail = [] ∨ marker <+: tail →
      let description := String.ofList (front ++ marker ++ payload ++ tail)
      comment description = nonBlank front ∧ raw description = nonBlank payload) ∧
    (∀ description : String, ¬ marker <:+: description.toList →
      comment description = nonBlank description.toList ∧ raw description = none) ∧
    (∀ text : List Char, Leaves text (nonBlank text)) ∧
    (∀ description part : String, comment description = some part ∨ raw description = some part →
      ¬ marker <:+: part.toList) := by
  refine ⟨?_, fun _ => comment_raw_of_free, leaves_nonBlank, ?_⟩
  · intro front payload tail hfront hpayload htail description
    refine comment_raw_of_marker hfront hpayload htail ?_
    rw [String.toList_ofList, List.append_assoc, List.append_assoc]
  · intro description part hpart
    by_cases hin : marker <:+: description.toList
    · obtain ⟨front, rest, hfront, hdescription⟩ := exists_first_marker hin
      obtain ⟨payload, tail, hpayload, htail, rfl⟩ := exists_free_part rest
      obtain ⟨hcomment, hraw⟩ := comment_raw_of_marker hfront hpayload htail hdescription
      rw [hcomment, hraw] at hpart
      exact hpart.elim (free_of_nonBlank hfront) (free_of_nonBlank hpayload)
    · obtain ⟨hcomment, hraw⟩ := comment_raw_of_free hin
      rw [hcomment, hraw] at hpart
      rcases hpart with hpart | hpart
      · exact free_of_nonBlank hin hpart
      · cases hpart

/-- A comment that breaks off like a marker, a payload that starts with a blank, and a second marker. -/
theorem comment_raw_exact_colour :
    comment "A colour zodzod: \n zod:string() zod: z.any()" = some "A colour zod" ∧
      raw "A colour zodzod: \n zod:string() zod: z.any()" = some "zod:string()" := by
  obtain ⟨hcomment, hraw⟩ := comment_raw_exact.1 "A colour zod".toList "\n zod:string() ".toList "zod: z.any()".toList
    (by decide) (by decide) (by decide)
  exact ⟨hcomment.trans rfl, hraw.trans rfl⟩

end ApiValidators.Remark
