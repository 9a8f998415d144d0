import ApiValidators.Proofs.Module.Lexemes
import ApiValidators.Proofs.Validator.Parts

/-!
# Printed literals

The text of a literal shows the literal, numbers up to their spelling (`Reads.literal`). The first character says what
kind of literal it is; from there on each kind has its own marks.
-/

namespace ApiValidators

open Layout

/-- Pairs with the same key and related values. -/
inductive Keyed {α : Type} (R : α → α → Prop) : String × α → String × α → Prop where
  | intro {a b : α} (key : String) : R a b → Keyed R (key, a) (key, b)

namespace Literal

/-- Equality of literals, numbers being compared by their spelling. -/
inductive Agrees : Literal → Literal → Prop where
  | null : Agrees null null
  | bool (b : Bool) : Agrees (bool b) (bool b)
  | number {m n : Number} : m.text = n.text → Agrees (number m) (number n)
  | string (s : String) : Agrees (string s) (string s)
  | array {xs ys : List Literal} : List.Forall₂ Agrees xs ys → Agrees (array xs) (array ys)
  | object {ms ns : List (String × Literal)} : List.Forall₂ (Keyed Agrees) ms ns → Agrees (object ms) (object ns)

theorem printItems_eq_map (depth : Nat) : ∀ items : List Literal, printItems depth items = items.map (print depth)
  | [] => by rw [printItems, List.map_nil]
  | l :: ls => by rw [printItems, printItems_eq_map depth ls, List.map_cons]

theorem printMembers_eq_map (depth : Nat) : ∀ members : List (String × Literal),
    printMembers depth members = members.map fun m => key m.1 ++ ':' :: ' ' :: print depth m.2
  | [] => by rw [printMembers, List.map_nil]
  | (name, l) :: ls => by rw [printMembers, printMembers_eq_map depth ls, List.map_cons]

/-- What the first character of a literal's text says about the literal. -/
def openerOf (c : Char) : Char := if c.isDigit ∨ c = '-' then '0' else if c = 'f' then 't' else c

/-- A character for each kind of literal. -/
def opener : Literal → Char
  | null => 'n'
  | bool _ => 't'
  | number _ => '0'
  | string _ => '"'
  | array _ => '['
  | object _ => '\x7b'

theorem opener_mem (l : Literal) : l.opener ∈ ['n', 't', '0', '"', '[', '\x7b'] := by cases l <;> simp [opener]

theorem print_opener (depth : Nat) (l : Literal) : ∃ c t, l.print depth = c :: t ∧ openerOf c = l.opener := by
  cases l with
  | null => exact ⟨'n', _, rfl, rfl⟩
  | bool b => cases b <;> exact ⟨_, _, rfl, rfl⟩
  | number n =>
    obtain ⟨_, c, t, ht, hc⟩ := n.text_numeral
    exact ⟨c, t, by rw [print, ht], if_pos hc⟩
  | string s => exact ⟨'"', _, by rw [print, Text.quoted], rfl⟩
  | array items => exact ⟨'[', _, by rw [print, brackets], rfl⟩
  | object members =>
    rw [print]
    cases printMembers (depth + 1) members <;> exact ⟨'\x7b', _, rfl, rfl⟩

/-- No literal starts with the letter of the imported library or with a bracket that closes. -/
theorem print_opener_ne (depth : Nat) (l : Literal) {c : Char} (hc : c = ']' ∨ c = ')' ∨ c = 'z') :
    ∃ i t, l.print depth = i :: t ∧ i ≠ c := by
  obtain ⟨i, t, hp, hi⟩ := l.print_opener depth
  refine ⟨i, t, hp, ?_⟩
  rintro rfl
  have hmem := l.opener_mem
  rw [← hi] at hmem
  rcases hc with rfl | rfl | rfl <;> exact absurd hmem (by decide)

end Literal

namespace Reads

theorem of_opener_ne {p : Char → Bool} {P : Prop} {a b : Literal} (h : a.opener ≠ b.opener) (depth : Nat) :
    Reads p P (a.print depth) (b.print depth) := by
  obtain ⟨c, s, hs, hc⟩ := a.print_opener depth
  obtain ⟨d, t, ht, hd⟩ := b.print_opener depth
  rw [hs, ht]
  refine of_head_ne ?_
  rintro rfl
  exact h (hc.symm.trans hd)

/-- **The text of a literal shows the literal**, where no number goes on behind it. -/
theorem literal (depth : Nat) (a : Literal) :
    ∀ b : Literal, Reads inNumeral (a.Agrees b) (a.print depth) (b.print depth) := by
  induction a using Literal.inner_induction generalizing depth with
  | step a ih =>
    intro b
    by_cases ho : a.opener ≠ b.opener
    · exact of_opener_ne ho depth
    -- only literals of one kind are left
    rw [not_not] at ho
    cases a <;> cases b <;> simp [Literal.opener] at ho
    case null.null => exact (same _).imp fun _ => Literal.Agrees.null
    case bool.bool b b' =>
      cases b <;> cases b'
      · exact (same _).imp fun _ => Literal.Agrees.bool false
      · exact of_head_ne (by decide)
      · exact of_head_ne (by decide)
      · exact (same _).imp fun _ => Literal.Agrees.bool true
    case number.number m n =>
      simp only [Literal.print]
      exact (number m n).imp Literal.Agrees.number
    case string.string s t =>
      simp only [Literal.print]
      refine (quoted s t).of_never.imp ?_
      rintro rfl
      exact Literal.Agrees.string s
    case array.array xs ys =>
      simp only [Literal.print, Literal.printItems_eq_map]
      have hitems : ∀ x ∈ xs, ∀ y ∈ ys, Reads inNumeral (x.Agrees y) (x.print depth) (y.print depth) :=
        fun x hx y _ => ih x hx depth y
      have hbracket : ∀ l : Literal, ∃ i t, l.print depth = i :: t ∧ i ≠ ']' :=
        fun l => l.print_opener_ne depth (Or.inl rfl)
      have hall := brackets (by decide) (by decide) (fun x _ => hbracket x) (fun y _ => hbracket y) hitems
      exact hall.of_never.imp Literal.Agrees.array
    case object.object ms ns =>
      simp only [Literal.print, Literal.printMembers_eq_map]
      have hmembers : ∀ m ∈ ms, ∀ n ∈ ns, Reads inNumeral (Keyed Literal.Agrees m n)
          (Layout.key m.1 ++ ':' :: ' ' :: m.2.print (depth + 1))
          (Layout.key n.1 ++ ':' :: ' ' :: n.2.print (depth + 1)) := by
        rintro ⟨k, x⟩ hm ⟨l, y⟩ _
        refine (keyed (ih x (List.mem_map_of_mem hm) (depth + 1) y)).imp ?_
        rintro ⟨rfl, hxy⟩
        exact Keyed.intro k hxy
      exact (braces depth (by decide) (by decide) hmembers).of_never.imp Literal.Agrees.object

end Reads

end ApiValidators
