import ApiValidators.Proofs.Module.Expressions

/-!
# Nesting indents

What is written deeper in is the same text with more blanks behind its line breaks (`Expr.print_eq_indent`): no line
feed comes from anywhere but the layout of objects. Texts are quoted, keys are quoted or bare, and comments are kept on
one line, so the only names that could bring one in are those written as they are. The invariant is about two depths at
once: indenting what is written at one depth by another gives what is written at their sum.
-/

namespace ApiValidators

open Layout Naming

namespace Layout

/-! ## Indented texts -/

/-- The text with four more blanks for each level of depth behind every line feed. -/
def indent (depth : Nat) (text : List Char) : List Char :=
  text.flatMap fun c => if c = '\n' then '\n' :: List.replicate (4 * depth) ' ' else [c]

variable (d k : Nat)

@[simp] theorem indent_nil : indent d [] = [] := rfl

@[simp] theorem indent_append (a b : List Char) : indent d (a ++ b) = indent d a ++ indent d b := by simp [indent]

@[simp] theorem indent_cons_of_ne {c : Char} (a : List Char) (h : c ≠ '\n') : indent d (c :: a) = c :: indent d a := by
  simp [indent, h]

theorem indent_flatMap {α : Type} (f : α → List Char) (l : List α) :
    indent d (l.flatMap f) = l.flatMap fun x => indent d (f x) := List.flatMap_assoc ..

theorem indent_of_not_mem {a : List Char} (h : '\n' ∉ a) : indent d a = a := by
  induction a with
  | nil => rfl
  | cons c a ih =>
    obtain ⟨hc, ha⟩ := not_or.1 (mt List.mem_cons.2 h)
    rw [indent_cons_of_ne d a (Ne.symm hc), ih ha]

@[simp] theorem indent_lineBreak : indent d (lineBreak k) = lineBreak (d + k) := by
  have hblanks : indent d (List.replicate (4 * k) ' ') = List.replicate (4 * k) ' ' :=
    indent_of_not_mem d fun h => absurd (List.eq_of_mem_replicate h) (by decide)
  have hopen : indent d (lineBreak k) =
      '\n' :: (List.replicate (4 * d) ' ' ++ indent d (List.replicate (4 * k) ' ')) := by simp [lineBreak, indent]
  rw [hopen, hblanks, List.replicate_append_replicate, ← Nat.mul_add, lineBreak]

@[simp] theorem indent_brackets (a : List Char) : indent d (brackets a) = brackets (indent d a) := by simp [brackets]

@[simp] theorem indent_commaSeparated : ∀ parts : List (List Char),
    indent d (commaSeparated parts) = commaSeparated (parts.map (indent d))
  | [] => rfl
  | [part] => rfl
  | part :: next :: parts => by
    rw [commaSeparated, indent_append, indent_cons_of_ne d _ (by decide), indent_cons_of_ne d _ (by decide),
      indent_commaSeparated (next :: parts)]
    · rfl
    · simp

theorem indent_lines : ∀ members : List (List Char),
    indent d (braces.lines k members) = braces.lines (d + k) (members.map (indent d))
  | [] => rfl
  | [member] => by simp [braces.lines, Nat.add_assoc]
  | member :: next :: members => by
    rw [braces.lines, indent_append, indent_append, indent_lineBreak, indent_cons_of_ne d _ (by decide),
      indent_lines (next :: members)]
    · simp [braces.lines, Nat.add_assoc]
    · simp

/-- The brace that closes stands as much further in as the members. -/
@[simp] theorem indent_braces (members : List (List Char)) :
    indent d (braces k members) = braces (d + k) (members.map (indent d)) := by
  cases members with
  | nil => rfl
  | cons member members => simp [braces, indent_lines]

/-! ## Texts on one line -/

theorem not_mem_escape (c : Char) : '\n' ∉ Text.escape c := by
  have hdigit : ∀ n, Text.hexDigit n ≠ '\n' := by
    have hall : ∀ n < 16, Nat.digitChar n ≠ '\n' := by decide
    exact fun n => hall (n % 16) (Nat.mod_lt n (by decide))
  unfold Text.escape
  -- a line feed has an escape of its own, so the last branch, where a character stands for itself, is not for it
  split_ifs <;> simp_all [Ne.symm]

theorem not_mem_quoted (text : List Char) : '\n' ∉ Text.quoted text := by
  simp [Text.quoted, not_mem_escape]

theorem not_mem_of_isBareName {name : List Char} (h : isBareName name = true) : '\n' ∉ name :=
  fun hmem => absurd (inName_of_isBareName h _ hmem) (by decide)

theorem not_mem_key (name : String) : '\n' ∉ key name := by
  unfold key
  split
  · next h => exact not_mem_of_isBareName h
  · exact not_mem_quoted _

theorem not_mem_lineComment (text : String) : '\n' ∉ lineComment text := by
  simp [lineComment, endsLine]

@[simp] theorem indent_quoted (text : List Char) : indent d (Text.quoted text) = Text.quoted text :=
  indent_of_not_mem d (not_mem_quoted text)

@[simp] theorem indent_key (name : String) : indent d (key name) = key name := indent_of_not_mem d (not_mem_key name)

@[simp] theorem indent_lineComment (text : String) : indent d (lineComment text) = lineComment text :=
  indent_of_not_mem d (not_mem_lineComment text)

@[simp] theorem indent_number (n : Number) : indent d n.text = n.text :=
  indent_of_not_mem d fun h => absurd (n.text_numeral.1 _ h) (by decide)

end Layout

/-! ## Literals -/

/-- **Literals are indented as a whole.** -/
theorem Literal.indent_print (l : Literal) (d k : Nat) : indent d (l.print k) = l.print (d + k) := by
  induction l using Literal.inner_induction generalizing k with
  | step l ih =>
  cases l with
  | null => rfl
  | bool b => cases b <;> rfl
  | number n => simp [print]
  | string s => simp [print]
  | array items =>
    have hitems : items.map (indent d ∘ print k) = items.map (print (d + k)) :=
      List.map_congr_left fun x hx => ih x hx k
    simp [print, printItems_eq_map, hitems]
  | object members =>
    have hmembers : members.map (indent d ∘ fun m => key m.1 ++ ':' :: ' ' :: print (k + 1) m.2) =
        members.map fun m => key m.1 ++ ':' :: ' ' :: print (d + k + 1) m.2 := by
      refine List.map_congr_left fun m hm => ?_
      have hvalue : indent d (print (k + 1) m.2) = print (d + k + 1) m.2 := ih m.2 (List.mem_map_of_mem hm) (k + 1)
      simp [hvalue]
    simp [print, printMembers_eq_map, hmembers]

/-! ## Expressions -/

/-- What is written as it is, the identifier at the start of a chain and the names of modifiers, stands on one line. -/
structure Expr.OnOneLine (e : Expr) : Prop where
  named : ∀ name, e.base = .named name → '\n' ∉ name.toList
  modifiers : ∀ m ∈ e.modifiers, '\n' ∉ m.name.toList

namespace Expr

/-- Whether an expression is indented as a whole. -/
def Indents (e : Expr) : Prop := ∀ d k, indent d (e.print k) = e.print (d + k)

variable (d k : Nat)

theorem indent_argument {a : Argument Expr} (h : ∀ e ∈ a.inner, e.Indents) :
    indent d (a.print k) = a.print (d + k) := by
  cases a with
  | literal l => exact l.indent_print d k
  | expr e => exact h e List.mem_cons_self d k

theorem indent_modifier {m : Modifier Expr} (hname : '\n' ∉ m.name.toList) (h : ∀ e ∈ m.inner, e.Indents) :
    indent d (m.print k) = m.print (d + k) := by
  have harguments : m.arguments.map (indent d ∘ Argument.print k) = m.arguments.map (Argument.print (d + k)) :=
    List.map_congr_left fun a ha => indent_argument d k (List.forall_mem_flatMap.1 h a ha)
  simp [Modifier.print, indent_of_not_mem d hname, harguments]

theorem indent_member {m : Member Expr} (h : m.value.Indents) : indent d (m.print k) = m.print (d + k) := by
  cases hc : m.comment <;> simp [Member.print, hc, h d k]

theorem indent_printInner {b : Base Expr} (h : ∀ e ∈ b.inner, e.Indents) :
    indent d (b.printInner k) = b.printInner (d + k) := by
  cases b with
  | enum labels =>
    have hlabels : labels.map (indent d ∘ fun l => Text.quoted l.toList) = labels.map fun l => Text.quoted l.toList :=
      List.map_congr_left fun l _ => indent_quoted d l.toList
    simp [Base.printInner, hlabels]
  | array item => exact h item List.mem_cons_self d k
  | object members =>
    have hmembers : members.map (indent d ∘ Member.print (k + 1)) = members.map (Member.print (d + k + 1)) :=
      List.map_congr_left fun m hm => indent_member d (k + 1) (h m.value (List.mem_map_of_mem hm))
    simp [Base.printInner, hmembers]
  | union branches =>
    have hbranches : branches.map (indent d ∘ print k) = branches.map (print (d + k)) :=
      List.map_congr_left fun e he => h e he d k
    simp [Base.printInner, hbranches]
  | _ => rfl

theorem indent_printBase {b : Base Expr} (hname : ∀ name, b = .named name → '\n' ∉ name.toList)
    (h : ∀ e ∈ b.inner, e.Indents) : indent d (printBase k b) = printBase (d + k) b := by
  by_cases hb : ∃ name, b = .named name
  · obtain ⟨name, rfl⟩ := hb
    exact indent_of_not_mem d (hname name rfl)
  · have hb : ∀ name, b ≠ .named name := fun name he => hb ⟨name, he⟩
    have hbuilder := indent_of_not_mem d (not_mem_of_isBareName (Base.isBareName_name hb))
    rw [printBase_eq_builderCall k hb, printBase_eq_builderCall (d + k) hb, ← indent_printInner d k h]
    simp [builderCall, hbuilder]

theorem indent_printModifiers {ms : List (Modifier Expr)} (hnames : ∀ m ∈ ms, '\n' ∉ m.name.toList)
    (h : ∀ e ∈ ms.flatMap Modifier.inner, e.Indents) : indent d (printModifiers k ms) = printModifiers (d + k) ms := by
  rw [printModifiers_eq_flatMap, printModifiers_eq_flatMap, indent_flatMap]
  refine List.flatMap_congr fun m hm => ?_
  rw [indent_cons_of_ne d _ (by decide), indent_modifier d k (hnames m hm) (List.forall_mem_flatMap.1 h m hm)]

/-- Expressions are indented as a whole, if what is written as it is stands on one line. -/
theorem indents_of_onOneLine (e : Expr) : e.All OnOneLine → e.Indents := by
  induction e using Expr.inner_induction with
  | step e ih =>
  intro he d k
  have hinner : ∀ x ∈ e.inner, x.Indents := fun x hx => ih x hx (he.inner x hx)
  cases e with
  | identifier name => exact indent_of_not_mem d (he.here.named name rfl)
  | call base modifiers =>
    obtain ⟨hbase, hmodifiers⟩ := List.forall_mem_append.1 hinner
    have hb : indent d (printBase k base) = printBase (d + k) base := indent_printBase d k he.here.named hbase
    have hm : indent d (printModifiers k modifiers) = printModifiers (d + k) modifiers :=
      indent_printModifiers d k he.here.modifiers hmodifiers
    rw [print, print, indent_append, hb, hm]

/-- **Nesting only indents.** At any depth, an expression whose identifiers and modifier names hold no line feed, and any
literal, is written as at depth zero, with four blanks for each level behind every line feed. -/
theorem print_eq_indent :
    (∀ e : Expr, e.All OnOneLine → ∀ depth, e.print depth = indent depth (e.print 0)) ∧
    ∀ (l : Literal) (depth : Nat), l.print depth = indent depth (l.print 0) := by
  refine ⟨fun e he depth => ?_, fun l depth => ?_⟩
  · exact (e.indents_of_onOneLine he depth 0).symm
  · exact (l.indent_print depth 0).symm

/-- An object whose member has a comment of two lines, with an object in an object as its default. -/
def crate : Expr :=
  .call (.object [⟨"bolt", .identifier "bolt", some "a\nb"⟩])
    [⟨"default", [.literal (.object [("bolt", .object [("m m", .null)])])]⟩]

theorem crate_onOneLine : crate.All OnOneLine := by
  have hinner : crate.inner = [.identifier "bolt"] := rfl
  refine .intro ⟨by simp [crate, base], by simp [crate, modifiers]⟩ ?_
  rw [hinner, List.forall_mem_singleton]
  exact .intro ⟨by simp [base], by simp [modifiers]⟩ (by simp [inner, base, Base.inner, modifiers])

/-- One level in, every line but the first has four more blanks in front. -/
theorem print_eq_indent_crate : crate.All OnOneLine ∧ crate.print 1 = ("z.object(\x7b\n        // ab\n" ++
    "        bolt: bolt\n    \x7d).default(\x7b\n        bolt: \x7b\n            \"m m\": null\n        \x7d\n" ++
    "    \x7d)").toList := by
  refine ⟨crate_onOneLine, ?_⟩
  rw [print_eq_indent.1 crate crate_onOneLine 1]
  rfl

end Expr

end ApiValidators
