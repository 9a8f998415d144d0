import ApiValidators.Proofs.Module.Reads
import ApiValidators.Proofs.Naming.Legality
import ApiValidators.Text.Quoted

/-!
# Words of a module

The smallest parts of a printed module can be told apart: quoted texts (`Reads.quoted`), names and keys (`Reads.key`),
numbers (`Reads.number`) and comments, up to the line ends that are left out (`Reads.lineComment`).
-/

namespace ApiValidators

open Layout Naming Text

/-! ## Quoted texts -/

namespace Text

/-- The character that a letter behind a backslash stands for. -/
def unescapeLetter (c : Char) : Char :=
  if c = 'n' then '\n' else if c = 'r' then '\r' else if c = 't' then '\t' else if c = 'b' then Char.ofNat 0x08
  else if c = 'f' then Char.ofNat 0x0C else c

/-- The first character of a text between quotes, and what is left of it; none at the closing quote. -/
def unescape : List Char → Option (Char × List Char)
  | [] => none
  | '"' :: _ => none
  | '\\' :: 'u' :: _ :: _ :: high :: low :: rest =>
    some (Char.ofNat (16 * (hexValue? high).getD 0 + (hexValue? low).getD 0), rest)
  | '\\' :: letter :: rest => some (unescapeLetter letter, rest)
  | c :: rest => some (c, rest)

theorem hexValue_digitChar : ∀ n, n < 16 → hexValue? (Nat.digitChar n) = some n := by decide

theorem hexValue_hexDigit (n : Nat) : hexValue? (hexDigit n) = some (n % 16) :=
  hexValue_digitChar (n % 16) (Nat.mod_lt n (by decide))

/-- **Every character can be read back**, whatever stands behind it. -/
theorem unescape_escape (c : Char) (u : List Char) : unescape (escape c ++ u) = some (c, u) := by
  have hback : ∀ n, c.toNat = n → Char.ofNat n = c := fun n hn => hn ▸ Char.ofNat_toNat c
  -- first the characters with short escapes, then other control characters, then all that stand for themselves
  unfold escape
  split
  case isTrue h => rw [h]; rfl
  split
  case isTrue h => rw [h]; rfl
  split
  case isTrue h => rw [h]; rfl
  split
  case isTrue h => rw [h]; rfl
  split
  case isTrue h => rw [h]; rfl
  split
  case isTrue h => rw [← hback _ h]; rfl
  split
  case isTrue h => rw [← hback _ h]; rfl
  split
  case isTrue h =>
    simp only [List.cons_append, List.nil_append, unescape, hexValue_hexDigit, Option.getD_some]
    rw [show 16 * (c.toNat / 16 % 16) + c.toNat % 16 = c.toNat by omega, Char.ofNat_toNat]
  case isFalse hquote hslash _ _ _ _ _ _ =>
    rw [List.singleton_append, unescape]
    · simpa using hquote
    · simp [hslash]
    · simp [hslash]

end Text

namespace Reads

/-- Whatever can be read back can be told apart. -/
theorem of_reader {α : Type} {f : α → List Char} (read : List Char → Option (α × List Char))
    (hread : ∀ x u, read (f x ++ u) = some (x, u)) (x y : α) : Reads never (x = y) (f x) (f y) := by
  intro u v _ _ he
  have hxy : some (x, u) = some (y, v) := by rw [← hread, ← hread, he]
  simpa using hxy

theorem escaped : ∀ s t : List Char, Reads never (s = t) (s.flatMap escape ++ ['"']) (t.flatMap escape ++ ['"'])
  | [], [] => (same _).imp fun _ => rfl
  | [], d :: t => by
    intro u v _ _ he
    have hread := unescape_escape d (t.flatMap escape ++ ['"'] ++ v)
    rw [← List.append_assoc, ← List.append_assoc, ← List.flatMap_cons, ← he] at hread
    cases hread
  | c :: s, [] => by
    intro u v _ _ he
    have hread := unescape_escape c (s.flatMap escape ++ ['"'] ++ u)
    rw [← List.append_assoc, ← List.append_assoc, ← List.flatMap_cons, he] at hread
    cases hread
  | c :: s, d :: t => by
    rw [List.flatMap_cons, List.flatMap_cons, List.append_assoc, List.append_assoc]
    have hfirst : Reads never (c = d) (escape c) (escape d) := of_reader unescape unescape_escape c d
    refine (hfirst.append (by simp) (by simp) fun _ => escaped s t).imp ?_
    rintro ⟨rfl, rfl⟩
    rfl

theorem quoted (s t : String) : Reads never (s = t) (Text.quoted s.toList) (Text.quoted t.toList) :=
  ((escaped s.toList t.toList).cons '"').imp String.toList_inj.1

/-! ## Names and keys -/

theorem name {m n : String} (hm : isBareName m.toList = true) (hn : isBareName n.toList = true) :
    Reads inName (m = n) m.toList n.toList :=
  (run (inName_of_isBareName hm) (inName_of_isBareName hn)).imp String.toList_inj.1

/-- A bare key starts with no quote, so that it is never taken for a quoted one. -/
theorem key (m n : String) : Reads inName (m = n) (Layout.key m) (Layout.key n) := by
  have hquote : ∀ {c : Char}, opensName c = true → c ≠ '"' := by
    rintro c hc rfl
    exact absurd hc (by decide)
  unfold Layout.key
  split
  case isTrue hm =>
    split
    case isTrue hn => exact name hm hn
    case isFalse =>
      obtain ⟨c, s, hs, hc, _⟩ := isBareName_iff.1 hm
      rw [hs]
      exact of_head_ne (hquote hc)
  case isFalse =>
    split
    case isTrue hn =>
      obtain ⟨c, s, hs, hc, _⟩ := isBareName_iff.1 hn
      rw [hs]
      exact of_head_ne (hquote hc).symm
    case isFalse => exact (quoted m n).of_never

theorem keyed {m n : String} {p : Char → Bool} {P : Prop} {a b : List Char} (h : Reads p P a b) :
    Reads p (m = n ∧ P) (Layout.key m ++ ':' :: ' ' :: a) (Layout.key n ++ ':' :: ' ' :: b) :=
  (key m n).append (by simp [inName]) (by simp [inName]) fun _ => h.prepend [':', ' ']

end Reads

/-! ## Comments -/

namespace Layout

/-- Whether two comments are the same up to line ends. -/
def SameComment (s t : String) : Prop :=
  (s.toList.filter fun c => !endsLine c) = t.toList.filter fun c => !endsLine c

end Layout

namespace Reads

theorem lineComment (s t : String) :
    Reads (fun c => !endsLine c) (SameComment s t) (Layout.lineComment s) (Layout.lineComment t) :=
  (run (fun _ hc => (List.mem_filter.1 hc).2) (fun _ hc => (List.mem_filter.1 hc).2)).prepend _

theorem banner (o o' : Section) : Reads never (o = o') (blockComment o.title) (blockComment o'.title) := by
  intro u v _ _ he
  cases o <;> cases o' <;> simp_all [blockComment, Section.title, insideBlock]

end Reads

/-! ## Numbers -/

/-- Characters that stand in numbers. -/
def inNumeral (c : Char) : Bool := c.isDigit || c == '-' || c == '+' || c == '.' || c == 'e'

/-- Whether a text is made of such characters and starts with a digit. -/
def IsNumeral (s : List Char) : Prop := (∀ c ∈ s, inNumeral c = true) ∧ ∃ c t, s = c :: t ∧ c.isDigit = true

theorem IsNumeral.append {s t : List Char} (hs : IsNumeral s) (ht : ∀ c ∈ t, inNumeral c = true) :
    IsNumeral (s ++ t) := by
  obtain ⟨hall, c, rest, rfl, hc⟩ := hs
  exact ⟨List.forall_mem_append.2 ⟨hall, ht⟩, c, rest ++ t, rfl, hc⟩

namespace Number

theorem inNumeral_of_isDigit {c : Char} (h : c.isDigit = true) : inNumeral c = true := by simp [inNumeral, h]

theorem isDigit_digits {n : Nat} : ∀ c ∈ digits n, c.isDigit = true :=
  fun _ hc => Nat.isDigit_of_mem_toDigits (by decide) (by decide) hc

theorem inNumeral_digits {n : Nat} : ∀ c ∈ digits n, inNumeral c = true :=
  fun c hc => inNumeral_of_isDigit (isDigit_digits c hc)

theorem isNumeral_digits (n : Nat) : IsNumeral (digits n) := by
  refine ⟨inNumeral_digits, ?_⟩
  obtain ⟨c, t, hd⟩ := List.exists_cons_of_ne_nil (Nat.toDigits_ne_nil : digits n ≠ [])
  exact ⟨c, t, hd, isDigit_digits c (hd ▸ List.mem_cons_self)⟩

theorem inNumeral_replicate (n : Nat) : ∀ c ∈ List.replicate n '0', inNumeral c = true := by
  intro c hc
  rw [(List.mem_replicate.1 hc).2]
  decide

theorem isNumeral_positional {ds : List Char} (h : IsNumeral ds) (point : Int) : IsNumeral (positional ds point) := by
  unfold positional
  split
  case isTrue =>
    refine ⟨?_, '0', _, rfl, by decide⟩
    simp only [List.forall_mem_cons, List.forall_mem_append]
    exact ⟨by decide, by decide, inNumeral_replicate _, h.1⟩
  case isFalse hpoint =>
    dsimp only
    split
    case isTrue =>
      rw [List.append_assoc]
      refine h.append (List.forall_mem_append.2 ⟨inNumeral_replicate _, ?_⟩)
      simp [inNumeral]
    case isFalse =>
      obtain ⟨hall, c, t, rfl, hc⟩ := h
      obtain ⟨k, hk⟩ : ∃ k, point.toNat = k + 1 := ⟨point.toNat - 1, by omega⟩
      rw [hk, List.take_succ_cons, List.drop_succ_cons]
      have ht := (List.forall_mem_cons.1 hall).2
      refine IsNumeral.append ⟨?_, c, _, rfl, hc⟩ ?_
      · exact List.forall_mem_cons.2 ⟨inNumeral_of_isDigit hc, fun x hx => ht x (List.mem_of_mem_take hx)⟩
      · exact List.forall_mem_cons.2 ⟨by decide, fun x hx => ht x (List.mem_of_mem_drop hx)⟩

theorem isNumeral_scientific {ds : List Char} (h : IsNumeral ds) (exponent : Int) :
    IsNumeral (scientific ds exponent) := by
  have htail : ∀ c ∈ 'e' :: (if exponent < 0 then '-' else '+') :: digits exponent.natAbs, inNumeral c = true := by
    simp only [List.forall_mem_cons]
    refine ⟨by decide, ?_, inNumeral_digits⟩
    split <;> decide
  obtain ⟨hall, c, t, rfl, hc⟩ := h
  cases t with
  | nil => exact IsNumeral.append ⟨hall, c, [], rfl, hc⟩ htail
  | cons x t =>
    obtain ⟨_, ht⟩ := List.forall_mem_cons.1 hall
    have hmantissa : IsNumeral (c :: '.' :: x :: t) :=
      ⟨List.forall_mem_cons.2 ⟨inNumeral_of_isDigit hc, List.forall_mem_cons.2 ⟨by decide, ht⟩⟩, c, _, rfl, hc⟩
    exact hmantissa.append htail

/-- The spelling of a number starts with a digit or a minus sign, and no character in it is foreign to numbers. -/
theorem text_numeral (n : Number) :
    (∀ c ∈ n.text, inNumeral c = true) ∧ ∃ c t, n.text = c :: t ∧ (c.isDigit = true ∨ c = '-') := by
  have hsigned : ∀ {s : List Char} (negative : Prop) [Decidable negative], IsNumeral s →
      (∀ c ∈ (if negative then '-' :: s else s), inNumeral c = true) ∧
        ∃ c t, (if negative then '-' :: s else s) = c :: t ∧ (c.isDigit = true ∨ c = '-') := by
    intro s negative _ hs
    split
    case isTrue => exact ⟨List.forall_mem_cons.2 ⟨by decide, hs.1⟩, '-', s, rfl, Or.inr rfl⟩
    case isFalse =>
      obtain ⟨hall, c, t, he, hc⟩ := hs
      exact ⟨hall, c, t, he, Or.inl hc⟩
  cases n with
  | whole n => exact hsigned (n < 0) (isNumeral_digits _)
  | double x =>
    refine hsigned (x.negative = true) ?_
    split
    case isTrue => exact isNumeral_positional (isNumeral_digits _) _
    case isFalse => exact isNumeral_scientific (isNumeral_digits _) _

end Number

theorem Reads.number (m n : Number) : Reads inNumeral (m.text = n.text) m.text n.text :=
  run m.text_numeral.1 n.text_numeral.1

end ApiValidators
