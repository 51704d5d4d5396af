import TypeEquations.Elimination
import TypeEquations.Proofs.Decimal

/-!
# Rendering

No two types have one text, and no two equations, lists of equations or steps. A text is read from the left:
where the operand of an arrow or of a pair ends is seen from its own characters, since a variable ends with its
digits and anything else that goes on stands in parentheses; a whole type ends where no arrow follows.
-/

namespace TypeEquations

open Text

variable {style : Style} {a b left right : Ty} {rest rest' : List Char}

namespace Style

def spacedArrow (style : Style) : List Char :=
  ' ' :: style.arrow.toList ++ [' ']

structure EndsType (style : Style) (text : List Char) : Prop where
  endsNumber : EndsNumber text
  ne_arrow : ∀ tail, text ≠ style.spacedArrow ++ tail

theorem endsNumber_spacedArrow : EndsNumber (style.spacedArrow ++ rest) :=
  endsNumber_cons rfl

theorem endsType_nil : style.EndsType [] :=
  ⟨endsNumber_nil, by simp [spacedArrow]⟩

theorem endsType_cons {c : Char} (hdigit : c.isDigit = false) (hblank : c ≠ ' ') :
    style.EndsType (c :: rest) :=
  ⟨endsNumber_cons hdigit, by simp [spacedArrow, hblank]⟩

theorem toList_variable (style : Style) (id : Int) :
    (style.variable id).toList = 't' :: ((style.variable id).toList.drop 1) := by
  cases style <;> simp [Style.variable]

/-- A variable ends before the first character behind it that is no digit. -/
theorem variable_append_inj {x y : Int} (hends : EndsNumber rest) (hends' : EndsNumber rest')
    (heq : (style.variable x).toList ++ rest = (style.variable y).toList ++ rest') : x = y ∧ rest = rest' := by
  cases style with
  | plain =>
    simp only [Style.variable, String.toList_append, List.append_assoc] at heq
    exact toString_append_inj hends hends' (List.append_cancel_left heq)
  | typeset =>
    simp only [Style.variable, String.toList_append, List.append_assoc] at heq
    have hbrace (text : List Char) : EndsNumber ("\x7d".toList ++ text) := endsNumber_cons rfl
    obtain ⟨rfl, hrest⟩ := toString_append_inj (hbrace rest) (hbrace rest') (List.append_cancel_left heq)
    exact ⟨rfl, List.append_cancel_left hrest⟩

end Style

namespace Ty

def spell (style : Style) (type : Ty) : List Char :=
  (type.render style).toList

def operand (style : Style) (type : Ty) : List Char :=
  (parenthesize type.needsParentheses (type.render style)).toList

theorem spell_of_needsParentheses_eq_false (hbare : a.needsParentheses = false) :
    a.spell style = a.operand style := by
  rw [spell, operand, hbare, parenthesize, if_neg (by decide)]

theorem spell_fn_append :
    (fn left right).spell style ++ rest =
      left.operand style ++ (style.spacedArrow ++ (right.spell style ++ rest)) := by
  simp [spell, operand, render, Style.spacedArrow]

theorem operand_fn_append :
    (fn left right).operand style ++ rest = '(' :: ((fn left right).spell style ++ ')' :: rest) := by
  simp [spell, operand, parenthesize, needsParentheses]

theorem operand_pair_append :
    (pair left right).operand style ++ rest =
      '(' :: (left.operand style ++ ',' :: ' ' :: (right.operand style ++ ')' :: rest)) := by
  simp [operand, parenthesize, needsParentheses, render]

theorem operand_var {id : Nat} : (var id).operand style = (style.variable id).toList := by
  simp [operand, parenthesize, needsParentheses, render]

theorem operand_bool : bool.operand style = ['B', 'o', 'o', 'l'] := by
  simp [operand, parenthesize, needsParentheses, render]

theorem operand_int : int.operand style = ['I', 'n', 't'] := by
  simp [operand, parenthesize, needsParentheses, render]

theorem operand_var_append {id : Nat} :
    (var id).operand style ++ rest = 't' :: ((style.variable id).toList.drop 1 ++ rest) := by
  rw [operand_var, Style.toList_variable]
  rfl

/-- The operand ends at the same place of every text that it begins, whatever stands behind it but a digit. -/
def OperandEnds (style : Style) (a : Ty) : Prop :=
  ∀ ⦃b rest rest'⦄, EndsNumber rest → EndsNumber rest' →
    a.operand style ++ rest = b.operand style ++ rest' → a = b ∧ rest = rest'

/-- The type ends at the same place of every text that it begins, where no arrow follows. -/
def SpellingEnds (style : Style) (a : Ty) : Prop :=
  ∀ ⦃b rest rest'⦄, style.EndsType rest → style.EndsType rest' →
    a.spell style ++ rest = b.spell style ++ rest' → a = b ∧ rest = rest'

/-- A type that needs no parentheses ends where it ends as an operand. -/
theorem OperandEnds.spellingEnds (hoperand : a.OperandEnds style) (hbare : a.needsParentheses = false) :
    a.SpellingEnds style := by
  intro b rest rest' hrest hrest' heq
  rw [spell_of_needsParentheses_eq_false hbare] at heq
  cases hb : b.needsParentheses with
  | false =>
    rw [spell_of_needsParentheses_eq_false hb] at heq
    exact hoperand hrest.endsNumber hrest'.endsNumber heq
  | true =>
    -- An arrow would follow on one side only.
    cases b with
    | fn left right =>
      rw [spell_fn_append] at heq
      obtain ⟨-, harrow⟩ := hoperand hrest.endsNumber Style.endsNumber_spacedArrow heq
      exact absurd harrow (hrest.ne_arrow _)
    | _ => cases hb

theorem spellingEnds_fn (hleft : left.OperandEnds style) (hright : right.SpellingEnds style) :
    (fn left right).SpellingEnds style := by
  intro b rest rest' hrest hrest' heq
  rw [spell_fn_append] at heq
  cases hb : b.needsParentheses with
  | false =>
    rw [spell_of_needsParentheses_eq_false hb] at heq
    obtain ⟨-, harrow⟩ := hleft Style.endsNumber_spacedArrow hrest'.endsNumber heq
    exact absurd harrow.symm (hrest'.ne_arrow _)
  | true =>
    cases b with
    | fn left' right' =>
      rw [spell_fn_append] at heq
      obtain ⟨rfl, htail⟩ := hleft Style.endsNumber_spacedArrow Style.endsNumber_spacedArrow heq
      obtain ⟨rfl, rfl⟩ := hright hrest hrest' (List.append_cancel_left htail)
      exact ⟨rfl, rfl⟩
    | _ => cases hb

theorem operandEnds_fn (hleft : left.OperandEnds style) (hright : right.SpellingEnds style) :
    (fn left right).OperandEnds style := by
  intro b rest rest' _ _ heq
  rw [operand_fn_append] at heq
  cases b with
  | fn left' right' =>
    rw [operand_fn_append, List.cons.injEq] at heq
    obtain ⟨hfn, hclosed⟩ := spellingEnds_fn hleft hright (Style.endsType_cons rfl (by decide))
      (Style.endsType_cons rfl (by decide)) heq.2
    exact ⟨hfn, (List.cons.inj hclosed).2⟩
  | pair left' right' =>
    -- Behind the left part one text goes on with an arrow, the other with a comma.
    rw [operand_pair_append, spell_fn_append, List.cons.injEq] at heq
    obtain ⟨-, hmark⟩ := hleft Style.endsNumber_spacedArrow (endsNumber_cons rfl) heq.2
    cases (List.cons.inj hmark).1
  | var id => simp [operand_var_append] at heq
  | bool => simp [operand_bool] at heq
  | int => simp [operand_int] at heq

theorem operandEnds_pair (hleft : left.OperandEnds style) (hright : right.OperandEnds style) :
    (pair left right).OperandEnds style := by
  intro b rest rest' _ _ heq
  rw [operand_pair_append] at heq
  cases b with
  | fn left' right' =>
    rw [operand_fn_append, spell_fn_append, List.cons.injEq] at heq
    obtain ⟨-, hmark⟩ := hleft (endsNumber_cons rfl) Style.endsNumber_spacedArrow heq.2
    cases (List.cons.inj hmark).1
  | pair left' right' =>
    rw [operand_pair_append, List.cons.injEq] at heq
    obtain ⟨rfl, htail⟩ := hleft (endsNumber_cons rfl) (endsNumber_cons rfl) heq.2
    simp only [List.cons.injEq, true_and] at htail
    obtain ⟨rfl, hclosed⟩ := hright (endsNumber_cons rfl) (endsNumber_cons rfl) htail
    exact ⟨rfl, (List.cons.inj hclosed).2⟩
  | var id => simp [operand_var_append] at heq
  | bool => simp [operand_bool] at heq
  | int => simp [operand_int] at heq

theorem operandEnds_var {id : Nat} : (var id).OperandEnds style := by
  intro b rest rest' hrest hrest' heq
  cases b with
  | fn left right => simp [operand_var_append, operand_fn_append] at heq
  | pair left right => simp [operand_var_append, operand_pair_append] at heq
  | var id' =>
    rw [operand_var, operand_var] at heq
    obtain ⟨hid, rfl⟩ := Style.variable_append_inj hrest hrest' heq
    exact ⟨congrArg var (Int.ofNat_inj.mp hid), rfl⟩
  | bool => simp [operand_var_append, operand_bool] at heq
  | int => simp [operand_var_append, operand_int] at heq

theorem operandEnds_bool : bool.OperandEnds style := by
  intro b rest rest' _ _ heq
  rw [operand_bool] at heq
  cases b with
  | fn left right => simp [operand_fn_append] at heq
  | pair left right => simp [operand_pair_append] at heq
  | var id => simp [operand_var_append] at heq
  | bool => exact ⟨rfl, List.append_cancel_left (operand_bool ▸ heq)⟩
  | int => simp [operand_int] at heq

theorem operandEnds_int : int.OperandEnds style := by
  intro b rest rest' _ _ heq
  rw [operand_int] at heq
  cases b with
  | fn left right => simp [operand_fn_append] at heq
  | pair left right => simp [operand_pair_append] at heq
  | var id => simp [operand_var_append] at heq
  | bool => simp [operand_bool] at heq
  | int => exact ⟨rfl, List.append_cancel_left (operand_int ▸ heq)⟩

/-- By induction on the type, its text alone says where it ends. -/
theorem operandEnds_and_spellingEnds (type : Ty) : type.OperandEnds style ∧ type.SpellingEnds style := by
  induction type with
  | fn left right ihl ihr => exact ⟨operandEnds_fn ihl.1 ihr.2, spellingEnds_fn ihl.1 ihr.2⟩
  | pair left right ihl ihr =>
    have hoperand : (pair left right).OperandEnds style := operandEnds_pair ihl.1 ihr.1
    exact ⟨hoperand, hoperand.spellingEnds rfl⟩
  | var id => exact ⟨operandEnds_var, operandEnds_var.spellingEnds rfl⟩
  | bool => exact ⟨operandEnds_bool, operandEnds_bool.spellingEnds rfl⟩
  | int => exact ⟨operandEnds_int, operandEnds_int.spellingEnds rfl⟩

theorem render_append_inj (hrest : style.EndsType rest) (hrest' : style.EndsType rest')
    (heq : (a.render style).toList ++ rest = (b.render style).toList ++ rest') : a = b ∧ rest = rest' :=
  (operandEnds_and_spellingEnds a).2 hrest hrest' heq

theorem render_inj (heq : a.render style = b.render style) : a = b :=
  (render_append_inj Style.endsType_nil Style.endsType_nil (congrArg (·.toList ++ []) heq)).1

end Ty

/-- An equation ends where its right side does. -/
theorem Equation.render_append_inj {a b : Equation} (hrest : style.EndsType rest)
    (hrest' : style.EndsType rest')
    (heq : (a.render style).toList ++ rest = (b.render style).toList ++ rest') : a = b ∧ rest = rest' := by
  have hsign (text : List Char) : EndsNumber (" = ".toList ++ text) := endsNumber_cons rfl
  simp only [Equation.render, String.toList_append, List.append_assoc] at heq
  obtain ⟨hvar, htail⟩ := Style.variable_append_inj (hsign _) (hsign _) heq
  obtain ⟨hrhs, hrest⟩ := Ty.render_append_inj hrest hrest' (List.append_cancel_left htail)
  exact ⟨by cases a; cases b; congr, hrest⟩

theorem Equation.render_inj {a b : Equation} (heq : a.render style = b.render style) : a = b :=
  (render_append_inj Style.endsType_nil Style.endsType_nil (congrArg (·.toList ++ []) heq)).1

theorem Equation.toList_render_ne_nil {equation : Equation} : (equation.render style).toList ≠ [] := by
  rw [Equation.render, String.toList_append, String.toList_append, Style.toList_variable]
  exact List.cons_ne_nil _ _

namespace Equations

def following (style : Style) : Equations → List Char
  | [] => []
  | equation :: equations => '\n' :: (Equations.render style (equation :: equations)).toList

theorem endsType_following (equations : Equations) : style.EndsType (equations.following style) := by
  cases equations with
  | nil => exact Style.endsType_nil
  | cons equation equations => exact Style.endsType_cons rfl (by decide)

theorem toList_render_cons {equation : Equation} {equations : Equations} :
    (Equations.render style (equation :: equations)).toList =
      (equation.render style).toList ++ equations.following style := by
  cases equations with
  | nil => simp [Equations.render, following]
  | cons next equations => simp [Equations.render, following]

/-- A list of equations is told by its text. -/
theorem render_inj {a b : Equations} (heq : a.render style = b.render style) : a = b := by
  induction a generalizing b with
  | nil =>
    cases b with
    | nil => rfl
    | cons equation equations =>
      have hempty := congrArg String.toList heq.symm
      rw [toList_render_cons] at hempty
      exact absurd (List.append_eq_nil_iff.mp hempty).1 Equation.toList_render_ne_nil
  | cons equation equations ih =>
    cases b with
    | nil =>
      have hempty := congrArg String.toList heq
      rw [toList_render_cons] at hempty
      exact absurd (List.append_eq_nil_iff.mp hempty).1 Equation.toList_render_ne_nil
    | cons equation' equations' =>
      have htexts := congrArg String.toList heq
      rw [toList_render_cons, toList_render_cons] at htexts
      obtain ⟨rfl, htail⟩ :=
        Equation.render_append_inj (endsType_following equations) (endsType_following equations') htexts
      cases equations with
      | nil =>
        cases equations' with
        | nil => rfl
        | cons next equations' => cases htail
      | cons next equations =>
        cases equations' with
        | nil => cases htail
        | cons next' equations' => rw [ih (String.toList_injective (List.cons.inj htail).2)]

end Equations

/-- A step is told by its text. -/
theorem Step.render_inj {a b : Step} (heq : a.render = b.render) : a = b := by
  have hbracket (text : List Char) : Style.plain.EndsType ("] ".toList ++ text) :=
    Style.endsType_cons rfl (by decide)
  have harrow (text : List Char) : Style.plain.EndsType (" => ".toList ++ text) :=
    ⟨endsNumber_cons rfl, by simp [Style.spacedArrow, Style.arrow]⟩
  have htexts := congrArg String.toList heq
  simp only [Step.render, String.toList_append, List.append_assoc] at htexts
  obtain ⟨hequation, htail⟩ :=
    Equation.render_append_inj (hbracket _) (hbracket _) (List.append_cancel_left htexts)
  obtain ⟨hbefore, htail⟩ := Ty.render_append_inj (harrow _) (harrow _) (List.append_cancel_left htail)
  have hafter : a.after = b.after := Ty.render_inj (String.toList_injective (List.append_cancel_left htail))
  cases a
  cases b
  congr

/-- A text stands for one thing: for one type and for one equation in either style, for one list of equations
and for one step. -/
theorem render_eq_render_iff :
    (∀ style (a b : Ty), a.render style = b.render style ↔ a = b) ∧
    (∀ style (a b : Equation), a.render style = b.render style ↔ a = b) ∧
    (∀ a b : Equations, a.render .plain = b.render .plain ↔ a = b) ∧
    (∀ a b : Step, a.render = b.render ↔ a = b) :=
  ⟨fun _ _ _ => ⟨Ty.render_inj, congrArg _⟩, fun _ _ _ => ⟨Equation.render_inj, congrArg _⟩,
    fun _ _ => ⟨Equations.render_inj, congrArg _⟩, fun _ _ => ⟨Step.render_inj, congrArg _⟩⟩

end TypeEquations
