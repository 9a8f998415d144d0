import ApiValidators.Proofs.Module.Literals

/-!
# Printed expressions

The text of a chain of calls shows the chain (`Reads.expr`): its builder and all that is in it, its modifiers and their
arguments, and the comments of its members up to line ends. Bare identifiers are left out here, since nothing marks
where such a one ends.
-/

namespace ApiValidators

open Layout Naming

/-! ## Agreement -/

inductive Argument.Agrees {ε : Type} (R : ε → ε → Prop) : Argument ε → Argument ε → Prop where
  | literal {l m : Literal} : l.Agrees m → Agrees R (literal l) (literal m)
  | expr {e f : ε} : R e f → Agrees R (expr e) (expr f)

/-- Agreement of modifiers: the same name, and arguments that agree. -/
inductive Modifier.Agrees {ε : Type} (R : ε → ε → Prop) : Modifier ε → Modifier ε → Prop where
  | intro (name : String) {as bs : List (Argument ε)} :
    List.Forall₂ (Argument.Agrees R) as bs → Agrees R ⟨name, as⟩ ⟨name, bs⟩

/-- Agreement of members: the same name, values that agree, and the same comment up to line ends. -/
inductive Member.Agrees {ε : Type} (R : ε → ε → Prop) : Member ε → Member ε → Prop where
  | intro (name : String) {e f : ε} {c d : Option String} :
    R e f → Option.Rel SameComment c d → Agrees R ⟨name, e, c⟩ ⟨name, f, d⟩

inductive Base.Agrees {ε : Type} (R : ε → ε → Prop) : Base ε → Base ε → Prop where
  | string : Agrees R string string
  | number : Agrees R number number
  | boolean : Agrees R boolean boolean
  | null : Agrees R null null
  | unknown : Agrees R unknown unknown
  | enum (labels : List String) : Agrees R (enum labels) (enum labels)
  | array {e f : ε} : R e f → Agrees R (array e) (array f)
  | object {ms ns : List (Member ε)} : List.Forall₂ (Member.Agrees R) ms ns → Agrees R (object ms) (object ns)
  | union {es fs : List ε} : List.Forall₂ R es fs → Agrees R (union es) (union fs)
  | named (name : String) : Agrees R (named name) (named name)

namespace Expr

/-- Equality of expressions, numbers being compared by their spelling and comments up to line ends. -/
inductive Agrees : Expr → Expr → Prop where
  | identifier (name : String) : Agrees (identifier name) (identifier name)
  | call {b c : Base Expr} {ms ns : List (Modifier Expr)} :
    b.Agrees Agrees c → List.Forall₂ (Modifier.Agrees Agrees) ms ns → Agrees (call b ms) (call c ns)

/-- A chain of calls from a builder, with modifiers that have bare names. -/
structure IsChain (e : Expr) : Prop where
  call : e.isCall = true
  builder : ∀ name, e.base ≠ .named name
  bare : ∀ m ∈ e.modifiers, isBareName m.name.toList = true

end Expr

/-! ## Texts part by part -/

def Argument.print (depth : Nat) : Argument Expr → List Char
  | literal l => l.print depth
  | expr e => e.print depth

def Modifier.print (depth : Nat) (m : Modifier Expr) : List Char :=
  m.name.toList ++ '(' :: (commaSeparated (m.arguments.map (Argument.print depth)) ++ [')'])

def Member.print (depth : Nat) (m : Member Expr) : List Char :=
  (m.comment.map fun text => lineComment text ++ lineBreak depth).getD [] ++
    (key m.name ++ ':' :: ' ' :: m.value.print depth)

/-- What stands between the parentheses of a builder. -/
def Base.printInner (depth : Nat) : Base Expr → List Char
  | enum labels => brackets (commaSeparated (labels.map fun l => Text.quoted l.toList))
  | array item => item.print depth
  | object members => braces depth (members.map (Member.print (depth + 1)))
  | union branches => brackets (commaSeparated (branches.map (Expr.print depth)))
  | _ => []

theorem Base.isBareName_name {b : Base Expr} (h : ∀ name, b ≠ .named name) : isBareName b.name.toList = true := by
  cases b with
  | named name => exact absurd rfl (h name)
  | _ => simp only [Base.name]; decide

namespace Expr

theorem printEach_eq_map (depth : Nat) : ∀ es : List Expr, printEach depth es = es.map (print depth)
  | [] => by rw [printEach, List.map_nil]
  | e :: es => by rw [printEach, printEach_eq_map depth es, List.map_cons]

theorem printArguments_eq_map (depth : Nat) : ∀ arguments : List (Argument Expr),
    printArguments depth arguments = arguments.map (Argument.print depth)
  | [] => by rw [printArguments, List.map_nil]
  | .literal l :: rest => by rw [printArguments, printArguments_eq_map depth rest, List.map_cons, Argument.print]
  | .expr e :: rest => by rw [printArguments, printArguments_eq_map depth rest, List.map_cons, Argument.print]

theorem printMembers_eq_map (depth : Nat) : ∀ members : List (Member Expr),
    printMembers depth members = members.map (Member.print depth)
  | [] => by rw [printMembers, List.map_nil]
  | ⟨name, value, comment⟩ :: members => by
    rw [printMembers, printMembers_eq_map depth members, List.map_cons, Member.print]

theorem printModifiers_eq_flatMap (depth : Nat) : ∀ modifiers : List (Modifier Expr),
    printModifiers depth modifiers = modifiers.flatMap fun m => '.' :: m.print depth
  | [] => by rw [printModifiers, List.flatMap_nil]
  | ⟨name, arguments⟩ :: modifiers => by
    rw [printModifiers, printModifiers_eq_flatMap depth modifiers, printArguments_eq_map, List.flatMap_cons,
      Modifier.print]
    simp

theorem printBase_eq_builderCall (depth : Nat) {b : Base Expr} (h : ∀ name, b ≠ .named name) :
    printBase depth b = builderCall b.name (b.printInner depth) := by
  cases b with
  | named name => exact absurd rfl (h name)
  | object members => rw [printBase, printMembers_eq_map, Base.printInner, Base.name]
  | union branches => rw [printBase, printEach_eq_map, Base.printInner, Base.name]
  | _ => simp [printBase, Base.printInner, Base.name]

theorem IsChain.print_opener {e : Expr} (h : e.IsChain) (depth : Nat) : ∃ t, e.print depth = 'z' :: t := by
  cases e with
  | identifier name => exact absurd h.call (by simp [isCall])
  | call base modifiers =>
    rw [print, printBase_eq_builderCall depth (b := base) h.builder]
    exact ⟨_, rfl⟩

/-- Whether the text of an expression shows the expression among all chains, where no modifier follows. -/
def Shown (e : Expr) : Prop :=
  ∀ (depth : Nat) (f : Expr), f.All IsChain → Reads (· == '.') (e.Agrees f) (e.print depth) (f.print depth)

end Expr

/-! ## Reading -/

theorem Layout.key_opener (name : String) : ∃ c t, key name = c :: t ∧ c ≠ '/' := by
  unfold key
  split
  case isTrue h =>
    obtain ⟨c, t, hname, hc, _⟩ := isBareName_iff.1 h
    refine ⟨c, t, hname, ?_⟩
    rintro rfl
    exact absurd hc (by decide)
  case isFalse => exact ⟨'"', _, rfl, by decide⟩

namespace Reads

variable (depth : Nat)

theorem builderCall {m n : String} {P : Prop} {i j : List Char} (hm : isBareName m.toList = true)
    (hn : isBareName n.toList = true) (h : m = n → Reads never P (i ++ [')']) (j ++ [')'])) :
    Reads never (m = n ∧ P) (Expr.builderCall m i) (Expr.builderCall n j) := by
  unfold Expr.builderCall
  rw [List.append_assoc, List.append_assoc]
  exact ((name hm hn).append (by simp [inName]) (by simp [inName]) fun he => (h he).cons '(').prepend _

/-- A literal is never taken for an expression: only expressions start with the imported name. -/
theorem argument {a b : Argument Expr} (ha : ∀ e ∈ a.inner, e.Shown ∧ e.All Expr.IsChain)
    (hb : ∀ f ∈ b.inner, f.All Expr.IsChain) :
    Reads inNumeral (a.Agrees Expr.Agrees b) (a.print depth) (b.print depth) := by
  cases a with
  | literal l =>
    cases b with
    | literal m => exact (literal depth l m).imp Argument.Agrees.literal
    | expr f =>
      obtain ⟨i, s, hs, hi⟩ := l.print_opener_ne depth (Or.inr (Or.inr rfl))
      obtain ⟨t, ht⟩ := (hb f List.mem_cons_self).here.print_opener depth
      rw [Argument.print, Argument.print, hs, ht]
      exact of_head_ne hi
  | expr e =>
    obtain ⟨hshown, hall⟩ := ha e List.mem_cons_self
    cases b with
    | literal m =>
      obtain ⟨i, t, ht, hi⟩ := m.print_opener_ne depth (Or.inr (Or.inr rfl))
      obtain ⟨s, hs⟩ := hall.here.print_opener depth
      rw [Argument.print, Argument.print, hs, ht]
      exact of_head_ne hi.symm
    | expr f => exact (hshown depth f (hb f List.mem_cons_self)).mono (by simp [inNumeral]) Argument.Agrees.expr

theorem argument_opener {a : Argument Expr} (ha : ∀ e ∈ a.inner, e.All Expr.IsChain) :
    ∃ i t, a.print depth = i :: t ∧ i ≠ ')' := by
  cases a with
  | literal l => exact l.print_opener_ne depth (Or.inr (Or.inl rfl))
  | expr e =>
    obtain ⟨t, ht⟩ := (ha e List.mem_cons_self).here.print_opener depth
    exact ⟨'z', t, ht, by decide⟩

theorem modifier {m n : Modifier Expr} (hm : isBareName m.name.toList = true) (hn : isBareName n.name.toList = true)
    (hshown : ∀ e ∈ m.inner, e.Shown ∧ e.All Expr.IsChain) (hall : ∀ f ∈ n.inner, f.All Expr.IsChain) :
    Reads never (m.Agrees Expr.Agrees n) (m.print depth) (n.print depth) := by
  obtain ⟨name, as⟩ := m
  obtain ⟨name', bs⟩ := n
  have ha := List.forall_mem_flatMap.1 hshown
  have hb := List.forall_mem_flatMap.1 hall
  have harguments : Reads never (List.Forall₂ (Argument.Agrees Expr.Agrees) as bs)
      (Layout.commaSeparated (as.map (Argument.print depth)) ++ [')'])
      (Layout.commaSeparated (bs.map (Argument.print depth)) ++ [')']) := by
    refine commaSeparated (p := inNumeral) (by decide) (by decide) (by decide) ?_ ?_ ?_
    · intro a h
      exact argument_opener depth fun e he => (ha a h e he).2
    · intro b h
      exact argument_opener depth (hb b h)
    · intro a h b h'
      exact argument depth (ha a h) (hb b h')
  refine ((Reads.name hm hn).append (by simp [inName]) (by simp [inName]) fun _ => harguments.cons '(').imp ?_
  rintro ⟨rfl, has⟩
  exact Modifier.Agrees.intro name has

/-- A comment above a member is no part of its key, which starts with no slash. -/
theorem member {m n : Member Expr} (hm : m.value.Shown) (hn : n.value.All Expr.IsChain) :
    Reads (· == '.') (m.Agrees Expr.Agrees n) (m.print depth) (n.print depth) := by
  obtain ⟨name, e, c⟩ := m
  obtain ⟨name', f, d⟩ := n
  have hcomment : ∀ s t : String, Reads never (SameComment s t) (Layout.lineComment s ++ lineBreak depth)
      (Layout.lineComment t ++ lineBreak depth) := fun s t => (lineComment s t).close _ (by decide)
  have hkey : ∀ (key' : String) (value u : List Char),
      ¬ ['/', '/'] <+: (Layout.key key' ++ ':' :: ' ' :: value) ++ u := by
    intro key' value u hp
    obtain ⟨i, t, hk, hi⟩ := key_opener key'
    rw [hk] at hp
    exact hi (List.cons_prefix_cons.1 hp).1.symm
  refine (optional ['/', '/'] (fun s => List.prefix_append ..) (fun u _ => hkey name _ u) (fun u _ => hkey name' _ u)
    hcomment (keyed (hm depth f hn))).imp ?_
  rintro ⟨hc, rfl, he⟩
  exact Member.Agrees.intro name he hc

theorem labels (ls ms : List String) :
    Reads never (ls = ms) ((Base.enum ls).printInner depth) ((Base.enum ms).printInner depth) := by
  have hquoted : ∀ l : String, ∃ i t, Text.quoted l.toList = i :: t ∧ i ≠ ']' := fun _ => ⟨'"', _, rfl, by decide⟩
  refine (brackets (p := never) rfl rfl (fun l _ => hquoted l) (fun m _ => hquoted m) fun l _ m _ => quoted l m).imp ?_
  intro h
  rwa [List.forall₂_eq_eq_eq] at h

theorem members {ms ns : List (Member Expr)} (hm : ∀ m ∈ ms, m.value.Shown)
    (hn : ∀ n ∈ ns, n.value.All Expr.IsChain) :
    Reads never (List.Forall₂ (Member.Agrees Expr.Agrees) ms ns) ((Base.object ms).printInner depth)
      ((Base.object ns).printInner depth) := by
  refine braces (p := (· == '.')) depth rfl rfl ?_
  intro m h n h'
  exact member (depth + 1) (hm m h) (hn n h')

theorem branches {es fs : List Expr} (he : ∀ e ∈ es, e.Shown ∧ e.All Expr.IsChain)
    (hf : ∀ f ∈ fs, f.All Expr.IsChain) :
    Reads never (List.Forall₂ Expr.Agrees es fs) ((Base.union es).printInner depth)
      ((Base.union fs).printInner depth) := by
  have hopener : ∀ e : Expr, e.All Expr.IsChain → ∃ i t, e.print depth = i :: t ∧ i ≠ ']' := by
    intro e h
    obtain ⟨t, ht⟩ := h.here.print_opener depth
    exact ⟨'z', t, ht, by decide⟩
  refine brackets (p := (· == '.')) rfl rfl ?_ ?_ ?_
  · intro e h
    exact hopener e (he e h).2
  · intro f h
    exact hopener f (hf f h)
  · intro e h f h'
    exact (he e h).1 depth f (hf f h')

/-- Builders have names of their own, so that bases with the same name are of the same kind. -/
theorem base {b c : Base Expr} (hb : ∀ name, b ≠ .named name) (hc : ∀ name, c ≠ .named name)
    (hshown : ∀ e ∈ b.inner, e.Shown ∧ e.All Expr.IsChain) (hall : ∀ f ∈ c.inner, f.All Expr.IsChain) :
    Reads never (b.Agrees Expr.Agrees c) (Expr.printBase depth b) (Expr.printBase depth c) := by
  rw [Expr.printBase_eq_builderCall depth hb, Expr.printBase_eq_builderCall depth hc]
  refine (builderCall (Base.isBareName_name hb) (Base.isBareName_name hc) fun hname => ?_).imp And.right
  -- bases of different kinds have different names, so only pairs of one kind are left
  cases b <;> cases c <;>
    try first | exact absurd rfl (hb _) | exact absurd rfl (hc _) | (simp [Base.name] at hname; done)
  case string.string => exact (same _).imp fun _ => Base.Agrees.string
  case number.number => exact (same _).imp fun _ => Base.Agrees.number
  case boolean.boolean => exact (same _).imp fun _ => Base.Agrees.boolean
  case null.null => exact (same _).imp fun _ => Base.Agrees.null
  case unknown.unknown => exact (same _).imp fun _ => Base.Agrees.unknown
  case enum.enum ls ms =>
    refine ((labels depth ls ms).close [] rfl).imp ?_
    rintro rfl
    exact Base.Agrees.enum ls
  case array.array e f =>
    obtain ⟨he, _⟩ := hshown e List.mem_cons_self
    have hf := hall f List.mem_cons_self
    exact ((he depth f hf).close [] (by decide)).imp Base.Agrees.array
  case object.object ms ns =>
    have hm : ∀ m ∈ ms, m.value.Shown := fun m h => (hshown m.value (List.mem_map_of_mem h)).1
    have hn : ∀ n ∈ ns, n.value.All Expr.IsChain := fun n h => hall n.value (List.mem_map_of_mem h)
    exact ((members depth hm hn).close [] rfl).imp Base.Agrees.object
  case union.union es fs => exact ((branches depth hshown hall).close [] rfl).imp Base.Agrees.union

/-- **The text of an expression shows the expression**, where no modifier follows. -/
theorem expr (e : Expr) : e.All Expr.IsChain → e.Shown := by
  induction e using Expr.inner_induction with
  | step e ih =>
    intro he depth f hf
    have hinner : ∀ x ∈ e.inner, x.Shown ∧ x.All Expr.IsChain := fun x hx => ⟨ih x hx (he.inner x hx), he.inner x hx⟩
    cases e with
    | identifier name => exact absurd he.here.call (by simp [Expr.isCall])
    | call b ms =>
      cases f with
      | identifier name => exact absurd hf.here.call (by simp [Expr.isCall])
      | call c ns =>
        obtain ⟨hb, hm⟩ := List.forall_mem_append.1 hinner
        obtain ⟨hc, hn⟩ := List.forall_mem_append.1 hf.inner
        have hmodifiers : ∀ m ∈ ms, ∀ n ∈ ns, Reads never (m.Agrees Expr.Agrees n) (m.print depth) (n.print depth) := by
          intro m h n h'
          apply modifier depth (he.here.bare m h) (hf.here.bare n h')
          · exact List.forall_mem_flatMap.1 hm m h
          · exact List.forall_mem_flatMap.1 hn n h'
        simp only [Expr.print, Expr.printModifiers_eq_flatMap]
        have hall := (base depth he.here.builder hf.here.builder hb hc).append (by simp) (by simp) fun _ =>
          flatMap '.' rfl hmodifiers
        exact hall.mono (by simp [never]) fun ⟨hb, hms⟩ => Expr.Agrees.call hb hms

end Reads

end ApiValidators
