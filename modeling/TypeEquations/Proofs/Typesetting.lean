import TypeEquations.Proofs.Rendering

/-!
# Typesetting

The two styles spell arrows and variables differently and all else alike. So the text of a type or of an
equation in one style is that in the other with these tokens replaced, in one pass from left to right. The pass
finds the tokens that were written and no others: a number ends with its digits, and the `t` at the end of
`Int` stands before no number.
-/

namespace TypeEquations

namespace Text

def digits? (text : List Char) : Option (List Char) :=
  let digits := text.takeWhile Char.isDigit
  if digits.isEmpty then none else some digits

def numeral? : List Char → Option (List Char)
  | '-' :: text => (digits? text).map ('-' :: ·)
  | text => digits? text

end Text

open Text

inductive Token where
  | arrow
  | numbered (numeral : List Char)

namespace Token

def spell : Style → Token → List Char
  | .plain, arrow => ['-', '>']
  | .plain, numbered numeral => 't' :: numeral
  | .typeset, arrow => ['\\', 't', 'o']
  | .typeset, numbered numeral => 't' :: '_' :: '\x7b' :: numeral ++ ['\x7d']

def read? : Style → List Char → Option Token
  | .plain, '-' :: '>' :: _ => some arrow
  | .plain, 't' :: text => (numeral? text).map numbered
  | .typeset, '\\' :: 't' :: 'o' :: _ => some arrow
  | .typeset, 't' :: '_' :: '\x7b' :: text =>
    (numeral? text).bind fun numeral =>
      if (text.drop numeral.length).head? = some '\x7d' then some (numbered numeral) else none
  | _, _ => none

end Token

/-- One pass from left to right: the tokens of one style are replaced by those of another, and all other
characters are kept. -/
def respell (source target : Style) : List Char → List Char
  | [] => []
  | c :: text =>
    match Token.read? source (c :: text) with
    | some token =>
      token.spell target ++ respell source target (text.drop ((token.spell source).length - 1))
    | none => c :: respell source target text
termination_by text => text.length
decreasing_by
  · simp only [List.length_cons, List.length_drop]
    omega
  · exact Nat.lt_succ_self _

variable {style source target : Style} {rest : List Char} {token : Token} {type : Ty}

namespace Text

theorem digits?_of_endsNumber (hends : EndsNumber rest) : digits? rest = none := by
  rw [digits?, hends.takeWhile_isDigit]
  rfl

theorem digits?_toDigits_append (n : Nat) (hends : EndsNumber rest) :
    digits? (Nat.toDigits 10 n ++ rest) = some (Nat.toDigits 10 n) := by
  have hne : (Nat.toDigits 10 n).isEmpty = false := by
    simp [Nat.toDigits_ne_nil]
  simp only [digits?, takeWhile_isDigit_toDigits_append n hends, hne, Bool.false_eq_true, if_false]

theorem numeral?_of_endsNumber (hends : EndsNumber rest) (hminus : rest.head? ≠ some '-') :
    numeral? rest = none := by
  cases rest with
  | nil => rfl
  | cons c rest =>
    rw [numeral?]
    · exact digits?_of_endsNumber hends
    · rintro text ⟨⟩
      exact hminus rfl

theorem numeral?_toString_append (n : Int) (hends : EndsNumber rest) :
    numeral? ((toString n).toList ++ rest) = some (toString n).toList := by
  cases n with
  | ofNat n =>
    rw [Int.ofNat_eq_natCast, toList_toString_natCast, numeral?]
    · exact digits?_toDigits_append n hends
    · intro text
      exact toDigits_append_ne_minus
  | negSucc n =>
    rw [toList_toString_negSucc, List.cons_append, numeral?, digits?_toDigits_append _ hends]
    rfl

end Text

namespace Token

theorem spell_ne_nil : token.spell style ≠ [] := by
  cases style <;> cases token <;> simp [spell]

theorem spell_arrow : arrow.spell style = style.arrow.toList := by
  cases style <;> rfl

theorem spell_numbered (id : Int) :
    (numbered (toString id).toList).spell style = (style.variable id).toList := by
  cases style <;> simp [spell, Style.variable]

theorem read?_arrow : read? style (style.arrow.toList ++ rest) = some arrow := by
  cases style <;> rfl

/-- A variable is read back with all its digits, if no digit follows. -/
theorem read?_variable (id : Int) (hends : EndsNumber rest) :
    read? style ((style.variable id).toList ++ rest) = some (numbered (toString id).toList) := by
  cases style with
  | plain =>
    have hspell : (Style.plain.variable id).toList ++ rest = 't' :: ((toString id).toList ++ rest) := by
      simp [Style.variable]
    rw [hspell, read?, numeral?_toString_append id hends, Option.map_some]
  | typeset =>
    have hspell : (Style.typeset.variable id).toList ++ rest =
        't' :: '_' :: '\x7b' :: ((toString id).toList ++ '\x7d' :: rest) := by
      simp [Style.variable]
    have hbrace : EndsNumber ('\x7d' :: rest) := endsNumber_cons rfl
    rw [hspell, read?, numeral?_toString_append id hbrace, Option.bind_some, List.drop_left,
      List.head?_cons, if_pos rfl]

/-- Tokens begin with a minus sign, a backslash or a `t`. -/
theorem read?_cons_of_ne {c : Char} (hminus : c ≠ '-') (hslash : c ≠ '\\') (ht : c ≠ 't') :
    read? style (c :: rest) = none := by
  unfold read?
  split <;> simp_all

/-- No number goes on behind a `t` at the end of a word. -/
theorem read?_t_of_endsNumber (hends : EndsNumber rest) (hminus : rest.head? ≠ some '-')
    (hline : rest.head? ≠ some '_') : read? style ('t' :: rest) = none := by
  cases style with
  | plain =>
    rw [read?, numeral?_of_endsNumber hends hminus, Option.map_none]
  | typeset =>
    unfold read?
    split <;> simp_all

end Token

theorem Token.drop_of_eq_append {c : Char} {text : List Char} (htext : c :: text = token.spell style ++ rest) :
    text.drop ((token.spell style).length - 1) = rest := by
  have hne : token.spell style ≠ [] := Token.spell_ne_nil
  obtain ⟨first, tail, htoken⟩ := List.exists_cons_of_ne_nil hne
  rw [htoken, List.cons_append, List.cons.injEq] at htext
  rw [htoken, htext.2, List.length_cons, Nat.add_sub_cancel, List.drop_left]

/-- A token is replaced as a whole. -/
theorem respell_of_read? (hread : Token.read? source (token.spell source ++ rest) = some token) :
    respell source target (token.spell source ++ rest) =
      token.spell target ++ respell source target rest := by
  cases htext : token.spell source ++ rest with
  | nil => exact absurd (List.append_eq_nil_iff.mp htext).1 Token.spell_ne_nil
  | cons c text =>
    rw [htext] at hread
    rw [respell, hread]
    simp only [Token.drop_of_eq_append htext.symm]

theorem respell_of_read?_eq_none {c : Char} (hread : Token.read? source (c :: rest) = none) :
    respell source target (c :: rest) = c :: respell source target rest := by
  rw [respell, hread]

/-- Characters with which no token begins are kept. -/
theorem respell_word (word : List Char) (hword : ∀ c ∈ word, c ≠ '-' ∧ c ≠ '\\' ∧ c ≠ 't') :
    respell source target (word ++ rest) = word ++ respell source target rest := by
  induction word with
  | nil => rfl
  | cons c word ih =>
    obtain ⟨⟨hminus, hslash, ht⟩, hrest⟩ := List.forall_mem_cons.mp hword
    rw [List.cons_append, respell_of_read?_eq_none (Token.read?_cons_of_ne hminus hslash ht), ih hrest,
      List.cons_append]

theorem respell_arrow :
    respell source target (source.arrow.toList ++ rest) = target.arrow.toList ++ respell source target rest := by
  rw [← Token.spell_arrow, ← Token.spell_arrow]
  apply respell_of_read?
  rw [Token.spell_arrow, Token.read?_arrow]

/-- A variable is respelled where no digit follows it. -/
theorem respell_variable (id : Int) (hends : EndsNumber rest) :
    respell source target ((source.variable id).toList ++ rest) =
      (target.variable id).toList ++ respell source target rest := by
  rw [← Token.spell_numbered, ← Token.spell_numbered]
  apply respell_of_read?
  rw [Token.spell_numbered, Token.read?_variable id hends]

theorem respell_spacedArrow :
    respell source target (source.spacedArrow ++ rest) =
      target.spacedArrow ++ respell source target rest := by
  have hblank (text : List Char) : respell source target (' ' :: text) = ' ' :: respell source target text :=
    respell_word [' '] (by simp)
  calc
    respell source target (source.spacedArrow ++ rest) =
        respell source target (' ' :: (source.arrow.toList ++ ' ' :: rest)) := by
      simp [Style.spacedArrow]
    _ = ' ' :: (target.arrow.toList ++ ' ' :: respell source target rest) := by
      rw [hblank, respell_arrow, hblank]
    _ = target.spacedArrow ++ respell source target rest := by
      simp [Style.spacedArrow]

namespace Ty

def EndsOperand (text : List Char) : Prop :=
  ∀ c ∈ text.head?, c = ' ' ∨ c = ')' ∨ c = ','

theorem endsOperand_nil : EndsOperand [] := by
  simp [EndsOperand]

theorem EndsOperand.ne {c : Char} (hends : EndsOperand rest) (hblank : c ≠ ' ') (hclose : c ≠ ')')
    (hcomma : c ≠ ',') : rest.head? ≠ some c := by
  intro hhead
  rcases hends c hhead with rfl | rfl | rfl <;> contradiction

theorem EndsOperand.endsNumber (hends : EndsOperand rest) : EndsNumber rest := by
  intro c hc
  rcases hends c hc with rfl | rfl | rfl <;> rfl

/-- The pass takes the text in one style to that in the other, whatever stands behind the end of it. -/
def Respells (source target : Style) (text : Style → List Char) : Prop :=
  ∀ rest, EndsOperand rest →
    respell source target (text source ++ rest) = text target ++ respell source target rest

variable {left right : Ty}

theorem respell_mark {c : Char} (hmark : c = '(' ∨ c = ')' ∨ c = ',' ∨ c = ' ') :
    respell source target (c :: rest) = c :: respell source target rest := by
  apply respell_word [c]
  rcases hmark with rfl | rfl | rfl | rfl <;> simp

theorem respells_spell_fn (hleft : Respells source target (operand · left))
    (hright : Respells source target (spell · right)) :
    Respells source target (spell · (fn left right)) := by
  intro rest hends
  have harrow : EndsOperand (source.spacedArrow ++ (right.spell source ++ rest)) := by
    simp [EndsOperand, Style.spacedArrow]
  rw [spell_fn_append, spell_fn_append, hleft _ harrow, respell_spacedArrow, hright _ hends]

theorem respells_operand_fn (hleft : Respells source target (operand · left))
    (hright : Respells source target (spell · right)) :
    Respells source target (operand · (fn left right)) := by
  intro rest hends
  have hclose : EndsOperand (')' :: rest) := by
    simp [EndsOperand]
  rw [operand_fn_append, operand_fn_append, respell_mark (by simp),
    respells_spell_fn hleft hright _ hclose, respell_mark (by simp)]

theorem respells_operand_pair (hleft : Respells source target (operand · left))
    (hright : Respells source target (operand · right)) :
    Respells source target (operand · (pair left right)) := by
  intro rest hends
  have hcomma : EndsOperand (',' :: ' ' :: (right.operand source ++ ')' :: rest)) := by
    simp [EndsOperand]
  have hclose : EndsOperand (')' :: rest) := by
    simp [EndsOperand]
  rw [operand_pair_append, operand_pair_append, respell_mark (by simp), hleft _ hcomma,
    respell_mark (by simp), respell_mark (by simp), hright _ hclose, respell_mark (by simp)]

theorem respells_operand_var (id : Nat) : Respells source target (operand · (var id)) := by
  intro rest hends
  simp only [operand_var]
  exact respell_variable id hends.endsNumber

theorem respells_operand_bool : Respells source target (operand · bool) := by
  intro rest hends
  simp only [operand_bool]
  apply respell_word
  simp

theorem respells_operand_int : Respells source target (operand · int) := by
  intro rest hends
  have hread : Token.read? source ('t' :: rest) = none := by
    apply Token.read?_t_of_endsNumber hends.endsNumber <;> apply hends.ne <;> decide
  simp only [operand_int]
  calc
    respell source target (['I', 'n', 't'] ++ rest) =
        ['I', 'n'] ++ respell source target ('t' :: rest) := respell_word ['I', 'n'] (by simp)
    _ = ['I', 'n', 't'] ++ respell source target rest := by
      rw [respell_of_read?_eq_none hread]
      rfl

/-- What stands on the left of an arrow or inside a pair is an operand; what stands on the right of an arrow goes
on to the end of the type. -/
theorem respells_operand_and_spell (source target : Style) (type : Ty) :
    Respells source target (operand · type) ∧ Respells source target (spell · type) := by
  have hbare {type : Ty} (hbare : type.needsParentheses = false)
      (hoperand : Respells source target (operand · type)) : Respells source target (spell · type) := by
    simpa only [Respells, spell_of_needsParentheses_eq_false hbare] using hoperand
  induction type with
  | fn left right ihl ihr =>
    exact ⟨respells_operand_fn ihl.1 ihr.2, respells_spell_fn ihl.1 ihr.2⟩
  | pair left right ihl ihr =>
    have hoperand := respells_operand_pair ihl.1 ihr.1
    exact ⟨hoperand, hbare rfl hoperand⟩
  | var id => exact ⟨respells_operand_var id, hbare rfl (respells_operand_var id)⟩
  | bool => exact ⟨respells_operand_bool, hbare rfl respells_operand_bool⟩
  | int => exact ⟨respells_operand_int, hbare rfl respells_operand_int⟩

/-- The pass takes the text of a type from one style to the other. -/
theorem respell_render (source target : Style) (type : Ty) :
    respell source target (type.render source).toList = (type.render target).toList := by
  have hspell := (respells_operand_and_spell source target type).2 [] endsOperand_nil
  simpa [respell, spell] using hspell

end Ty

theorem Equation.respell_render (source target : Style) (equation : Equation) :
    respell source target (equation.render source).toList = (equation.render target).toList := by
  have hsign (text : List Char) : EndsNumber (" = ".toList ++ text) := endsNumber_cons rfl
  simp only [Equation.render, String.toList_append, List.append_assoc]
  rw [respell_variable _ (hsign _), respell_word " = ".toList (by simp), Ty.respell_render]

def isMark (c : Char) : Bool :=
  c.isDigit || c ∈ ['(', ')', ',', ' ', 'B', 'I']

namespace Token

theorem exists_append_of_digits? {text digits : List Char} (hdigits : digits? text = some digits) :
    ∃ rest, text = digits ++ rest := by
  rw [digits?] at hdigits
  split at hdigits
  · cases hdigits
  · cases hdigits
    exact ⟨_, (List.takeWhile_append_dropWhile ..).symm⟩

theorem exists_append_of_numeral? {text numeral : List Char} (hnumeral : numeral? text = some numeral) :
    ∃ rest, text = numeral ++ rest := by
  unfold numeral? at hnumeral
  split at hnumeral
  · obtain ⟨digits, hdigits, rfl⟩ := Option.map_eq_some_iff.mp hnumeral
    obtain ⟨rest, rfl⟩ := exists_append_of_digits? hdigits
    exact ⟨rest, rfl⟩
  · exact exists_append_of_digits? hnumeral

/-- A token that is read stands at the start of the text. -/
theorem exists_append_of_read? {text : List Char} (hread : read? style text = some token) :
    ∃ rest, text = token.spell style ++ rest := by
  unfold read? at hread
  split at hread
  · cases hread
    exact ⟨_, rfl⟩
  · obtain ⟨numeral, hnumeral, rfl⟩ := Option.map_eq_some_iff.mp hread
    obtain ⟨rest, rfl⟩ := exists_append_of_numeral? hnumeral
    exact ⟨rest, rfl⟩
  · cases hread
    exact ⟨_, rfl⟩
  · obtain ⟨numeral, hnumeral, hclosed⟩ := Option.bind_eq_some_iff.mp hread
    obtain ⟨rest, rfl⟩ := exists_append_of_numeral? hnumeral
    rw [List.drop_left] at hclosed
    split at hclosed
    · rename_i hhead
      obtain ⟨tail, rfl⟩ := List.head?_eq_some_iff.mp hhead
      cases hclosed
      exact ⟨tail, by simp [spell]⟩
    · cases hclosed
  · cases hread

/-- A token has the same marks in both styles. -/
theorem filter_isMark_spell (source target : Style) (token : Token) :
    (token.spell source).filter isMark = (token.spell target).filter isMark := by
  have hplain (style : Style) : (token.spell style).filter isMark = (token.spell .plain).filter isMark := by
    cases style <;> cases token <;> simp [spell, isMark]
  rw [hplain source, hplain target]

end Token

/-- No mark is touched by the pass, whatever the text. -/
theorem filter_isMark_respell (source target : Style) (text : List Char) :
    (respell source target text).filter isMark = text.filter isMark := by
  fun_induction respell source target text with
  | case1 => rfl
  | case2 c text token hread ih =>
    obtain ⟨rest, htext⟩ := Token.exists_append_of_read? hread
    rw [List.filter_append, ih, Token.drop_of_eq_append htext, htext, List.filter_append,
      Token.filter_isMark_spell source target]
  | case3 c text hread ih =>
    rw [List.filter_cons, List.filter_cons, ih]

/-- **The two styles.** The text of a type or of an equation in one style is that in the other, in which one
pass from left to right has replaced the arrows and the variables. It touches no parenthesis and no comma, and it
can be undone. -/
theorem respell_render_eq_render :
    (∀ type : Ty, respell .plain .typeset (type.render .plain).toList = (type.render .typeset).toList ∧
      respell .typeset .plain (type.render .typeset).toList = (type.render .plain).toList ∧
      (type.render .typeset).toList.filter isMark = (type.render .plain).toList.filter isMark) ∧
    (∀ equation : Equation,
      respell .plain .typeset (equation.render .plain).toList = (equation.render .typeset).toList ∧
      respell .typeset .plain (equation.render .typeset).toList = (equation.render .plain).toList ∧
      (equation.render .typeset).toList.filter isMark = (equation.render .plain).toList.filter isMark) := by
  constructor
  · intro type
    have htypeset := Ty.respell_render .plain .typeset type
    refine ⟨htypeset, Ty.respell_render .typeset .plain type, ?_⟩
    rw [← htypeset, filter_isMark_respell]
  · intro equation
    have htypeset := Equation.respell_render .plain .typeset equation
    refine ⟨htypeset, Equation.respell_render .typeset .plain equation, ?_⟩
    rw [← htypeset, filter_isMark_respell]

end TypeEquations
