import ApiValidators.Module.Printer
import Mathlib.Data.List.Forall2
import Mathlib.Tactic.Common

/-!
# Texts that can be told apart

A printed text is followed by other text, and where it ends is not marked. `Reads p P a b` says that nothing is lost by
that: if `a` and `b` open the same text, then `P` holds and both end at the same place, provided that what stands behind
them does not go on with a character of the kind `p`. Here is how such facts are put together for texts made of parts
(`Reads.append`), for optional parts (`Reads.optional`) and for lists (`Reads.flatMap`, `Reads.braces`,
`Reads.commaSeparated`).
-/

namespace ApiValidators

open Layout

variable {p q : Char → Bool} {P Q : Prop} {a b c d u v : List Char}

/-- Whether a text does not start with a character of a kind. -/
def Stops (p : Char → Bool) (u : List Char) : Prop := ∀ x ∈ u.head?, p x = false

/-- Whether `P` can be read off a text that both `a` and `b` open, and where they end as well. -/
def Reads (p : Char → Bool) (P : Prop) (a b : List Char) : Prop :=
  ∀ u v, Stops p u → Stops p v → a ++ u = b ++ v → P ∧ u = v

def never : Char → Bool := fun _ => false

@[simp] theorem stops_nil : Stops p [] := by simp [Stops]

@[simp] theorem stops_cons {x : Char} : Stops p (x :: u) ↔ p x = false := by simp [Stops]

@[simp] theorem stops_never : Stops never u := fun _ _ => rfl

theorem Stops.mono (hp : ∀ x, p x = true → q x = true) (h : Stops q u) : Stops p u := by
  intro x hx
  have hq := h x hx
  cases hpx : p x with
  | false => rfl
  | true => rw [hp x hpx] at hq; cases hq

/-- Behind an item comes the mark of the next one, or what stands behind the list. -/
theorem Stops.flatMap {α : Type} {f : α → List Char} {mark : Char} (hmark : p mark = false) (xs : List α)
    (hu : Stops (fun x => p x || x == mark) u) : Stops p ((xs.flatMap fun x => mark :: f x) ++ u) := by
  cases xs with
  | nil => exact hu.mono (by simp +contextual)
  | cons x xs => simp [hmark]

namespace Reads

theorem mono (hp : ∀ x, p x = true → q x = true) (hP : P → Q) (h : Reads p P a b) : Reads q Q a b := by
  intro u v hu hv he
  obtain ⟨hholds, huv⟩ := h u v (hu.mono hp) (hv.mono hp) he
  exact ⟨hP hholds, huv⟩

theorem imp (hP : P → Q) (h : Reads p P a b) : Reads p Q a b := h.mono (fun _ hx => hx) hP

/-- A text whose end needs no mark can be read before any other. -/
theorem of_never (h : Reads never P a b) : Reads p P a b := h.mono (by simp [never]) id

theorem same (a : List Char) : Reads p True a a := fun _ _ _ _ he => ⟨trivial, List.append_cancel_left he⟩

theorem of_head_ne {x y : Char} (hne : x ≠ y) : Reads p P (x :: a) (y :: b) := by
  intro u v _ _ he
  exact absurd (List.cons.inj he).1 hne

/-- **Parts one after the other.** The second parts matter only where the first ones agree; they do not go on with
them. -/
theorem append (h : Reads p P a b) (hc : ∀ u, Stops q u → Stops p (c ++ u)) (hd : ∀ u, Stops q u → Stops p (d ++ u))
    (h' : P → Reads q Q c d) : Reads q (P ∧ Q) (a ++ c) (b ++ d) := by
  intro u v hu hv he
  rw [List.append_assoc, List.append_assoc] at he
  obtain ⟨hP, he⟩ := h _ _ (hc u hu) (hd v hv) he
  obtain ⟨hQ, huv⟩ := h' hP u v hu hv he
  exact ⟨⟨hP, hQ⟩, huv⟩

theorem prepend (s : List Char) (h : Reads p P a b) : Reads p P (s ++ a) (s ++ b) :=
  ((same (p := never) s).append (by simp) (by simp) fun _ => h).imp And.right

theorem cons (x : Char) (h : Reads p P a b) : Reads p P (x :: a) (x :: b) := h.prepend [x]

/-- The same text behind, which does not go on with what is in front of it. -/
theorem close {x : Char} (s : List Char) (hx : p x = false) (h : Reads p P a b) :
    Reads never P (a ++ x :: s) (b ++ x :: s) :=
  (h.append (by simp [hx]) (by simp [hx]) fun _ => same (x :: s)).imp And.left

theorem run : ∀ {a b : List Char}, (∀ x ∈ a, p x = true) → (∀ x ∈ b, p x = true) → Reads p (a = b) a b
  | [], [], _, _ => fun _ _ _ _ he => ⟨rfl, he⟩
  | [], y :: b, _, hb => by
    intro u v hu _ he
    obtain rfl : u = y :: (b ++ v) := he
    rw [stops_cons, hb y List.mem_cons_self] at hu
    cases hu
  | x :: a, [], ha, _ => by
    intro u v _ hv he
    obtain rfl : x :: (a ++ u) = v := he
    rw [stops_cons, ha x List.mem_cons_self] at hv
    cases hv
  | x :: a, y :: b, ha, hb => by
    intro u v hu hv he
    simp only [List.cons_append, List.cons.injEq] at he
    obtain ⟨rfl, he⟩ := he
    obtain ⟨rfl, huv⟩ := run (List.forall_mem_cons.1 ha).2 (List.forall_mem_cons.1 hb).2 u v hu hv he
    exact ⟨rfl, huv⟩

/-! ## Optional parts -/

variable {α : Type} {R : α → α → Prop}

/-- A part that may be missing, known by the mark it starts with, which nothing else at its place starts with. -/
theorem optional {f : α → List Char} {o o' : Option α} (mark : List Char) (hmark : ∀ x, mark <+: f x)
    (hc : ∀ u, Stops q u → ¬ mark <+: c ++ u) (hd : ∀ u, Stops q u → ¬ mark <+: d ++ u)
    (h : ∀ x y, Reads never (R x y) (f x) (f y)) (h' : Reads q Q c d) :
    Reads q (Option.Rel R o o' ∧ Q) ((o.map f).getD [] ++ c) ((o'.map f).getD [] ++ d) := by
  cases o with
  | none =>
    cases o' with
    | none => exact h'.imp fun hQ => ⟨Option.Rel.none, hQ⟩
    | some y =>
      -- the part stands on one side only, where the other side would have to start with its mark
      intro u v hu _ he
      refine absurd ?_ (hc u hu)
      have he : c ++ u = f y ++ (d ++ v) := by simpa using he
      rw [he]
      exact (hmark y).trans (List.prefix_append ..)
  | some x =>
    cases o' with
    | none =>
      intro u v _ hv he
      refine absurd ?_ (hd v hv)
      have he : f x ++ (c ++ u) = d ++ v := by simpa using he
      rw [← he]
      exact (hmark x).trans (List.prefix_append ..)
    | some y => exact ((h x y).append (by simp) (by simp) fun _ => h').imp fun ⟨hR, hQ⟩ => ⟨Option.Rel.some hR, hQ⟩

/-! ## Lists -/

/-- **Items behind a mark each.** The mark neither goes on with an item nor stands behind the list. -/
theorem flatMap {f : α → List Char} (mark : Char) (hmark : p mark = false) : ∀ {xs ys : List α},
    (∀ x ∈ xs, ∀ y ∈ ys, Reads p (R x y) (f x) (f y)) → Reads (fun x => p x || x == mark) (List.Forall₂ R xs ys)
      (xs.flatMap fun x => mark :: f x) (ys.flatMap fun y => mark :: f y)
  | [], [], _ => fun _ _ _ _ he => ⟨List.Forall₂.nil, he⟩
  | [], y :: ys, _ => by
    intro u v hu _ he
    obtain rfl : u = mark :: (f y ++ ys.flatMap (fun y => mark :: f y) ++ v) := by simpa using he
    simp at hu
  | x :: xs, [], _ => by
    intro u v _ hv he
    obtain rfl : mark :: (f x ++ xs.flatMap (fun x => mark :: f x) ++ u) = v := by simpa using he
    simp at hv
  | x :: xs, y :: ys, h => by
    have hfirst : Reads p (R x y) (f x) (f y) := h x List.mem_cons_self y List.mem_cons_self
    have hrest : Reads (fun x => p x || x == mark) (List.Forall₂ R xs ys) (xs.flatMap fun x => mark :: f x)
        (ys.flatMap fun y => mark :: f y) :=
      flatMap mark hmark fun x hx y hy => h x (List.mem_cons_of_mem _ hx) y (List.mem_cons_of_mem _ hy)
    have hall := (hfirst.append (fun _ => Stops.flatMap hmark xs) (fun _ => Stops.flatMap hmark ys) fun _ => hrest).cons
      mark
    simpa [List.flatMap_cons] using hall

/-- A first item and others, a comma and the same text in front of each of these, up to a closing text. -/
theorem items {f : α → List Char} (between : List Char) {x y : α} {xs ys : List α} {mark : Char} (closing : List Char)
    (hcomma : p ',' = false) (hmark : p mark = false) (hne : mark ≠ ',')
    (h : ∀ a ∈ x :: xs, ∀ b ∈ y :: ys, Reads p (R a b) (f a) (f b)) :
    Reads never (List.Forall₂ R (x :: xs) (y :: ys))
      ((f x ++ xs.flatMap fun a => ',' :: (between ++ f a)) ++ mark :: closing)
      ((f y ++ ys.flatMap fun b => ',' :: (between ++ f b)) ++ mark :: closing) := by
  have hfirst : Reads p (R x y) (f x) (f y) := h x List.mem_cons_self y List.mem_cons_self
  have hrest : Reads (fun x => p x || x == ',') (List.Forall₂ R xs ys)
      (xs.flatMap fun a => ',' :: (between ++ f a)) (ys.flatMap fun b => ',' :: (between ++ f b)) :=
    flatMap ',' hcomma fun a ha b hb => (h a (List.mem_cons_of_mem _ ha) b (List.mem_cons_of_mem _ hb)).prepend between
  have hall := hfirst.append (fun _ => Stops.flatMap hcomma xs) (fun _ => Stops.flatMap hcomma ys) fun _ => hrest
  exact (hall.imp fun ⟨hR, hRs⟩ => List.Forall₂.cons hR hRs).close closing (by simp [hmark, hne])

end Reads

/-! ## Brackets and braces -/

theorem Layout.commaSeparated_cons (part : List Char) : ∀ parts : List (List Char),
    commaSeparated (part :: parts) = part ++ parts.flatMap fun q => ',' :: ([' '] ++ q)
  | [] => by simp [commaSeparated]
  | q :: parts => by
    rw [commaSeparated, commaSeparated_cons q parts]
    · rfl
    · simp

theorem Layout.lines_cons (depth : Nat) (member : List Char) : ∀ members : List (List Char),
    braces.lines depth (member :: members) =
      lineBreak (depth + 1) ++ (member ++ members.flatMap fun m => ',' :: (lineBreak (depth + 1) ++ m))
  | [] => by simp [braces.lines]
  | m :: members => by
    rw [braces.lines, lines_cons depth m members]
    · simp
    · simp

theorem Layout.braces_cons (depth : Nat) (member : List Char) (members : List (List Char)) :
    braces depth (member :: members) = '\x7b' :: (lineBreak (depth + 1) ++
      ((member ++ members.flatMap fun m => ',' :: (lineBreak (depth + 1) ++ m)) ++
        '\n' :: (List.replicate (4 * depth) ' ' ++ ['\x7d']))) := by
  rw [braces, lines_cons]
  · simp [lineBreak]
  · simp

namespace Reads

variable {α : Type} {R : α → α → Prop} {f : α → List Char} {xs ys : List α}

/-- Items between commas up to a closing bracket, which none of them starts with. -/
theorem commaSeparated {bracket : Char} (hcomma : p ',' = false) (hbracket : p bracket = false) (hne : bracket ≠ ',')
    (hx : ∀ x ∈ xs, ∃ i t, f x = i :: t ∧ i ≠ bracket) (hy : ∀ y ∈ ys, ∃ i t, f y = i :: t ∧ i ≠ bracket)
    (h : ∀ x ∈ xs, ∀ y ∈ ys, Reads p (R x y) (f x) (f y)) :
    Reads never (List.Forall₂ R xs ys) (Layout.commaSeparated (xs.map f) ++ [bracket])
      (Layout.commaSeparated (ys.map f) ++ [bracket]) := by
  cases xs with
  | nil =>
    cases ys with
    | nil => exact (same _).of_never.imp fun _ => List.Forall₂.nil
    | cons y ys =>
      obtain ⟨i, t, hf, hi⟩ := hy y List.mem_cons_self
      rw [List.map_cons, Layout.commaSeparated_cons, hf]
      exact of_head_ne hi.symm
  | cons x xs =>
    cases ys with
    | nil =>
      obtain ⟨i, t, hf, hi⟩ := hx x List.mem_cons_self
      rw [List.map_cons, Layout.commaSeparated_cons, hf]
      exact of_head_ne hi
    | cons y ys =>
      simp only [List.map_cons, Layout.commaSeparated_cons, List.flatMap_map]
      exact items [' '] [] hcomma hbracket hne h

theorem brackets (hcomma : p ',' = false) (hbracket : p ']' = false)
    (hx : ∀ x ∈ xs, ∃ i t, f x = i :: t ∧ i ≠ ']') (hy : ∀ y ∈ ys, ∃ i t, f y = i :: t ∧ i ≠ ']')
    (h : ∀ x ∈ xs, ∀ y ∈ ys, Reads p (R x y) (f x) (f y)) :
    Reads never (List.Forall₂ R xs ys) (Layout.brackets (Layout.commaSeparated (xs.map f)))
      (Layout.brackets (Layout.commaSeparated (ys.map f))) :=
  (commaSeparated hcomma hbracket (by decide) hx hy h).cons '['

theorem braces (depth : Nat) (hcomma : p ',' = false) (hbreak : p '\n' = false)
    (h : ∀ x ∈ xs, ∀ y ∈ ys, Reads p (R x y) (f x) (f y)) :
    Reads never (List.Forall₂ R xs ys) (Layout.braces depth (xs.map f)) (Layout.braces depth (ys.map f)) := by
  cases xs with
  | nil =>
    cases ys with
    | nil => exact (same _).of_never.imp fun _ => List.Forall₂.nil
    | cons y ys =>
      rw [List.map_cons, Layout.braces_cons]
      exact (of_head_ne (by decide)).cons _
  | cons x xs =>
    cases ys with
    | nil =>
      rw [List.map_cons, Layout.braces_cons]
      exact (of_head_ne (by decide)).cons _
    | cons y ys =>
      simp only [List.map_cons, Layout.braces_cons, List.flatMap_map]
      exact ((items (lineBreak (depth + 1)) _ hcomma hbreak (by decide) h).prepend _).cons _

end Reads

end ApiValidators
