import ApiValidators.Proofs.Module.Expressions

/-!
# Printed modules

The text of a module shows its statements (`text_unambiguous`): two lists of statements with the same text have the same
length and agree one by one, so that no comment, key, label or default value is ever taken for code around it. What the
text does not show are the spelling of a number as another number, line ends in comments, and, without banners, where
sections start.
-/

namespace ApiValidators

open Layout Naming

/-! ## Statements -/

namespace Statement

/-- Agreement of statements. Where sections start shows only with banners. -/
structure Agrees (banners : Bool) (s t : Statement) : Prop where
  identifier : s.identifier = t.identifier
  expression : s.expression.Agrees t.expression
  comment : Option.Rel SameComment s.comment t.comment
  opens : banners = true → s.opens = t.opens

/-- A bare name for an expression that is made of chains of calls only. -/
structure IsPlain (s : Statement) : Prop where
  identifier : isBareName s.identifier.toList = true
  expression : s.expression.All Expr.IsChain

def printDeclaration (s : Statement) : List Char :=
  "export const ".toList ++ (s.identifier.toList ++ (" = ".toList ++ (s.expression.print 0 ++ [';'])))

def printCommented (s : Statement) : List Char :=
  (s.comment.map fun text => lineComment text ++ ['\n']).getD [] ++ s.printDeclaration

theorem print_eq (banners : Bool) (s : Statement) :
    s.print banners = (if banners then (s.opens.map fun o => blockComment o.title ++ ['\n']).getD [] else []) ++
      s.printCommented := by
  unfold print printCommented printDeclaration
  dsimp only
  simp only [List.append_assoc]

theorem printDeclaration_opener (s : Statement) : ∃ t, s.printDeclaration = 'e' :: t := ⟨_, rfl⟩

theorem printCommented_opener (s : Statement) (u : List Char) : ¬ ['/', '*'] <+: s.printCommented ++ u := by
  obtain ⟨t, ht⟩ := s.printDeclaration_opener
  rw [printCommented, ht]
  cases s.comment with
  | none => simp
  | some c => simp [lineComment]

end Statement

namespace Reads

variable {s t : Statement}

theorem declaration (hs : s.IsPlain) (ht : t.IsPlain) :
    Reads never (s.identifier = t.identifier ∧ s.expression.Agrees t.expression) s.printDeclaration
      t.printDeclaration := by
  have hexpr := (expr s.expression hs.expression 0 t.expression ht.expression).close (x := ';') [] (by decide)
  have hname := name hs.identifier ht.identifier
  exact (hname.append (by simp [inName]) (by simp [inName]) fun _ => hexpr.prepend " = ".toList).prepend _

theorem commented (hs : s.IsPlain) (ht : t.IsPlain) :
    Reads never (Option.Rel SameComment s.comment t.comment ∧ s.identifier = t.identifier ∧
      s.expression.Agrees t.expression) s.printCommented t.printCommented := by
  have hopener : ∀ (s : Statement) (u : List Char), ¬ ['/', '/'] <+: s.printDeclaration ++ u := by
    intro s u
    obtain ⟨t, ht⟩ := s.printDeclaration_opener
    simp [ht]
  have hcomment : ∀ c d : String, Reads never (SameComment c d) (Layout.lineComment c ++ ['\n'])
      (Layout.lineComment d ++ ['\n']) := fun c d => (lineComment c d).close [] (by decide)
  exact optional ['/', '/'] (fun _ => List.prefix_append ..) (fun u _ => hopener s u) (fun u _ => hopener t u) hcomment
    (declaration hs ht)

/-- **The text of a statement shows the statement.** -/
theorem statement (banners : Bool) (hs : s.IsPlain) (ht : t.IsPlain) :
    Reads never (s.Agrees banners t) (s.print banners) (t.print banners) := by
  have hbody := commented hs ht
  rw [Statement.print_eq, Statement.print_eq]
  cases banners with
  | false => exact hbody.imp fun ⟨hc, hi, he⟩ => ⟨hi, he, hc, fun h => nomatch h⟩
  | true =>
    have hbanner : ∀ o o' : Section, Reads never (o = o') (blockComment o.title ++ ['\n'])
        (blockComment o'.title ++ ['\n']) := fun o o' => (banner o o').close [] rfl
    refine (optional ['/', '*'] (fun _ => List.prefix_append ..) (fun u _ => s.printCommented_opener u)
      (fun u _ => t.printCommented_opener u) hbanner hbody).imp ?_
    rintro ⟨ho, hc, hi, he⟩
    refine ⟨hi, he, hc, fun _ => ?_⟩
    generalize s.opens = o, t.opens = o' at ho ⊢
    cases ho with
    | none => rfl
    | some h => rw [h]

end Reads

/-! ## Modules -/

namespace Module

/-- The text of a module with each line break moved behind the statement it stands in front of. -/
theorem text_eq (banners : Bool) (ss : List Statement) :
    text banners ss = header.toList ++ '\n' :: ss.flatMap fun s => '\n' :: (s.print banners ++ ['\n']) := by
  have hshift : ∀ ss : List Statement, (ss.flatMap fun s => '\n' :: '\n' :: s.print banners) ++ ['\n'] =
      '\n' :: ss.flatMap fun s => '\n' :: (s.print banners ++ ['\n']) := by
    intro ss
    induction ss with
    | nil => rfl
    | cons s ss ih => simp [ih]
  rw [text, List.append_assoc, hshift]

/-- **Printing is unambiguous**: modules with the same text have statements that agree one by one. -/
theorem text_unambiguous {banners : Bool} {ss ts : List Statement} (hs : ∀ s ∈ ss, s.IsPlain)
    (ht : ∀ t ∈ ts, t.IsPlain) (h : text banners ss = text banners ts) :
    List.Forall₂ (Statement.Agrees banners) ss ts := by
  rw [text_eq, text_eq] at h
  have hitems : ∀ s ∈ ss, ∀ t ∈ ts, Reads never (s.Agrees banners t) (s.print banners ++ ['\n'])
      (t.print banners ++ ['\n']) := fun s h t h' => (Reads.statement banners (hs s h) (ht t h')).close [] rfl
  have hall := ((Reads.flatMap '\n' rfl hitems).cons '\n').prepend header.toList
  exact (hall [] [] stops_nil stops_nil (by rw [List.append_nil, List.append_nil, h])).1

/-- A statement with a comment, over an object whose one member has a comment that looks like the end of an object. -/
def pet (comment : String) : Statement where
  identifier := "schemaPet"
  expression := .ofBase (.object [⟨"pet-name", .call .string [⟨"min", [.literal (.number (.whole 1))]⟩], some "\x7d)"⟩])
  comment := some comment
  opens := some .components

theorem pet_isPlain (comment : String) : (pet comment).IsPlain := by
  have hname : isBareName "schemaPet".toList = true := by decide
  refine ⟨hname, .intro ⟨rfl, by simp [pet, Expr.ofBase, Expr.base], by simp [pet, Expr.ofBase, Expr.modifiers]⟩ ?_⟩
  simp only [pet, Expr.ofBase, Expr.inner, Expr.base, Expr.modifiers, Base.inner, List.map_cons, List.map_nil,
    List.flatMap_nil, List.append_nil, List.forall_mem_singleton]
  refine .intro ⟨rfl, by simp [Expr.base], ?_⟩ ?_
  · simp only [Expr.modifiers, List.forall_mem_singleton]
    decide
  · simp [Expr.inner, Expr.base, Expr.modifiers, Base.inner, Modifier.inner, Argument.inner]

/-- Statements whose texts are the same, and that agree because their comments differ in a line end only. -/
theorem text_unambiguous_lineEnd : text true [pet "one\ntwo"] = text true [pet "onetwo"] ∧
    List.Forall₂ (Statement.Agrees true) [pet "one\ntwo"] [pet "onetwo"] := by
  have hplain : ∀ comment : String, ∀ s ∈ [pet comment], s.IsPlain :=
    fun comment => List.forall_mem_singleton.2 (pet_isPlain comment)
  have h : text true [pet "one\ntwo"] = text true [pet "onetwo"] := rfl
  exact ⟨h, text_unambiguous (hplain _) (hplain _) h⟩

end Module

end ApiValidators
