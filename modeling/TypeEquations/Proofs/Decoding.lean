import TypeEquations.Proofs.Renaming
import TypeEquations.Wire.Document

/-!
# Decoding

Decoding takes exactly what encoding writes, up to a bound on the objects inside one another, and gives back
what was encoded. What has the form of a type always is one: its words are those of the base types, and its
ids are not negative.
-/

namespace TypeEquations

open Wire

variable {depth : Nat} {json : Json} {type : Ty} {equation : Equation}

def Ty.nesting : Ty → Nat
  | fn left right => max left.nesting right.nesting + 1
  | pair left right => max left.nesting right.nesting + 1
  | var _ => 1
  | bool => 0
  | int => 0

namespace Wire

namespace Form

variable {form : Form}

theorem ofJsonWithin_function_eq_some_iff {left right : Json} :
    ofJsonWithin (depth + 1) (.obj [("Function", .arr [left, right])]) = some form ↔
      ∃ left' right', ofJsonWithin depth left = some left' ∧ ofJsonWithin depth right = some right' ∧
        .fn left' right' = form := by
  rw [ofJsonWithin, if_pos rfl]
  cases ofJsonWithin depth left <;> cases ofJsonWithin depth right <;> simp

theorem ofJsonWithin_tuple_eq_some_iff {left right : Json} :
    ofJsonWithin (depth + 1) (.obj [("Tuple", .arr [left, right])]) = some form ↔
      ∃ left' right', ofJsonWithin depth left = some left' ∧ ofJsonWithin depth right = some right' ∧
        .pair left' right' = form := by
  rw [ofJsonWithin, if_neg (by decide), if_pos rfl]
  cases ofJsonWithin depth left <;> cases ofJsonWithin depth right <;> simp

theorem toTy_fn {left right : Form} {left' right' : Ty} (hleft : left.toTy = .ok left')
    (hright : right.toTy = .ok right') : (fn left right).toTy = .ok (.fn left' right') := by
  rw [toTy, hleft, hright]
  rfl

theorem toTy_pair {left right : Form} {left' right' : Ty} (hleft : left.toTy = .ok left')
    (hright : right.toTy = .ok right') : (pair left right).toTy = .ok (.pair left' right') := by
  rw [toTy, hleft, hright]
  rfl

theorem toTy_var_natCast (id : Nat) : (var id).toTy = .ok (.var id) := by
  have hid : variableId (.int id) = .ok id := variableId_int_eq_ok_iff.mpr rfl
  rw [toTy, hid]
  rfl

/-- What has the form of a type is one, and it was encoded so. Induction along the reading; each object takes
one off the depth. -/
theorem exists_of_ofJsonWithin (hform : ofJsonWithin depth json = some form) :
    ∃ type, form.toTy = .ok type ∧ json = type.toJson ∧ type.nesting ≤ depth := by
  induction depth, json using ofJsonWithin.induct generalizing form with
  | case1 depth text hword =>
    rw [ofJsonWithin, if_pos hword] at hform
    cases hform
    rcases hword with rfl | rfl
    · exact ⟨.bool, rfl, rfl, Nat.zero_le _⟩
    · exact ⟨.int, rfl, rfl, Nat.zero_le _⟩
  | case2 depth text hword => simp [ofJsonWithin, hword] at hform
  | case3 depth left right ihl ihr =>
    obtain ⟨left', right', hleft, hright, rfl⟩ := ofJsonWithin_function_eq_some_iff.mp hform
    obtain ⟨l, hl, rfl, hlle⟩ := ihl hleft
    obtain ⟨r, hr, rfl, hrle⟩ := ihr hright
    exact ⟨.fn l r, toTy_fn hl hr, rfl, Nat.succ_le_succ (Nat.max_le.mpr ⟨hlle, hrle⟩)⟩
  | case4 depth left right hne ihl ihr =>
    obtain ⟨left', right', hleft, hright, rfl⟩ := ofJsonWithin_tuple_eq_some_iff.mp hform
    obtain ⟨l, hl, rfl, hlle⟩ := ihl hleft
    obtain ⟨r, hr, rfl, hrle⟩ := ihr hright
    exact ⟨.pair l r, toTy_pair hl hr, rfl, Nat.succ_le_succ (Nat.max_le.mpr ⟨hlle, hrle⟩)⟩
  | case5 depth key left right hfunction htuple => simp [ofJsonWithin, hfunction, htuple] at hform
  | case6 depth key id hvar =>
    rw [ofJsonWithin, if_pos hvar] at hform
    cases hform
    obtain ⟨rfl, hid⟩ := hvar
    obtain ⟨id, rfl⟩ := Int.eq_ofNat_of_zero_le hid
    exact ⟨.var id, toTy_var_natCast id, rfl, Nat.succ_le_succ (Nat.zero_le _)⟩
  | case7 depth key id hvar => simp [ofJsonWithin, hvar] at hform
  | case8 depth json hstr harr hint => simp [ofJsonWithin] at hform

/-- An encoded type that is not nested too deeply has a form, and the form is of that type. -/
theorem exists_ofJsonWithin_toJson (hle : type.nesting ≤ depth) :
    ∃ form, ofJsonWithin depth type.toJson = some form ∧ form.toTy = .ok type := by
  induction type generalizing depth with
  | fn left right ihl ihr =>
    obtain _ | depth := depth
    · exact absurd hle (Nat.not_succ_le_zero _)
    · obtain ⟨hlle, hrle⟩ := Nat.max_le.mp (Nat.le_of_succ_le_succ hle)
      obtain ⟨l, hl, hleft⟩ := ihl hlle
      obtain ⟨r, hr, hright⟩ := ihr hrle
      exact ⟨fn l r, ofJsonWithin_function_eq_some_iff.mpr ⟨l, r, hl, hr, rfl⟩, toTy_fn hleft hright⟩
  | pair left right ihl ihr =>
    obtain _ | depth := depth
    · exact absurd hle (Nat.not_succ_le_zero _)
    · obtain ⟨hlle, hrle⟩ := Nat.max_le.mp (Nat.le_of_succ_le_succ hle)
      obtain ⟨l, hl, hleft⟩ := ihl hlle
      obtain ⟨r, hr, hright⟩ := ihr hrle
      exact ⟨pair l r, ofJsonWithin_tuple_eq_some_iff.mpr ⟨l, r, hl, hr, rfl⟩, toTy_pair hleft hright⟩
  | var id =>
    obtain _ | depth := depth
    · exact absurd hle (Nat.not_succ_le_zero _)
    · refine ⟨var id, ?_, toTy_var_natCast id⟩
      rw [Ty.toJson, ofJsonWithin, if_pos ⟨rfl, Int.natCast_nonneg id⟩]
  | bool => exact ⟨word "Bool", by cases depth <;> rfl, rfl⟩
  | int => exact ⟨word "Int", by cases depth <;> rfl, rfl⟩

end Form

end Wire

/-- **Reading a type.** Only the encoding of a type is read as it, and only if it is not nested too deeply. -/
theorem Ty.ofJson?_eq_some_iff :
    Ty.ofJson? json = some type ↔ json = type.toJson ∧ type.nesting ≤ Form.nestingLimit := by
  constructor
  · intro hread
    obtain ⟨form, hform, htype⟩ := Option.bind_eq_some_iff.mp hread
    obtain ⟨found, hfound, rfl, hle⟩ := Form.exists_of_ofJsonWithin hform
    rw [hfound] at htype
    cases htype
    exact ⟨rfl, hle⟩
  · rintro ⟨rfl, hle⟩
    obtain ⟨form, hform, htype⟩ := Form.exists_ofJsonWithin_toJson hle
    exact Option.bind_eq_some_iff.mpr ⟨form, hform, by rw [htype]; rfl⟩

/-- The value has the two members of the encoded equation, in either order. -/
def Equation.EncodedBy (equation : Equation) (json : Json) : Prop :=
  json = equation.toJson ∨ json = .obj [("rhs", equation.rhs.toJson), ("var", .int equation.var)]

theorem Equation.EncodedBy.var_eq {equation' : Equation} (hencoded : equation.EncodedBy json)
    (hencoded' : equation'.EncodedBy json) : equation.var = equation'.var := by
  rcases hencoded with rfl | rfl <;> rcases hencoded' with heq | heq <;> grind [Equation.toJson]

namespace Wire

namespace EquationForm

variable {rhs : Json} {form : EquationForm}

theorem ofParts?_eq_some_iff {value : Json} :
    ofParts? value rhs = some form ↔ value = .int form.var ∧ 0 ≤ form.var ∧ Form.ofJson? rhs = some form.rhs := by
  obtain ⟨var, frhs⟩ := form
  cases value with
  | int value =>
    by_cases hle : 0 ≤ value
    · simp only [ofParts?, if_pos hle, Option.map_eq_some_iff, mk.injEq, Json.int.injEq]
      constructor
      · rintro ⟨_, hrhs, rfl, rfl⟩
        exact ⟨rfl, hle, hrhs⟩
      · rintro ⟨rfl, -, hrhs⟩
        exact ⟨frhs, hrhs, rfl, rfl⟩
    · simp only [ofParts?, if_neg hle, reduceCtorEq, Json.int.injEq, false_iff]
      rintro ⟨rfl, hle', -⟩
      exact hle hle'
  | _ => simp [ofParts?]

theorem ofJson?_eq_some_iff :
    ofJson? json = some form ↔ ∃ value rhs, ofParts? value rhs = some form ∧
      (json = .obj [("var", value), ("rhs", rhs)] ∨ json = .obj [("rhs", rhs), ("var", value)]) := by
  constructor
  · intro hread
    unfold ofJson? at hread
    split at hread
    · rename_i key value key' value'
      split at hread
      · rename_i hkeys
        exact ⟨value, value', hread, .inl (by rw [hkeys.1, hkeys.2])⟩
      · split at hread
        · rename_i hkeys
          exact ⟨value', value, hread, .inr (by rw [hkeys.1, hkeys.2])⟩
        · cases hread
    · cases hread
  · rintro ⟨value, rhs, hread, rfl | rfl⟩
    · rwa [ofJson?, if_pos ⟨rfl, rfl⟩]
    · rwa [ofJson?, if_neg (by decide), if_pos ⟨rfl, rfl⟩]

theorem toEquation_eq_ok_iff :
    form.toEquation = .ok equation ↔ form.var = equation.var ∧ form.rhs.toTy = .ok equation.rhs := by
  obtain ⟨var, rhs⟩ := equation
  cases hrhs : form.rhs.toTy <;> simp [toEquation, hrhs, Except.map]

theorem exists_of_ofJson? (hform : ofJson? json = some form) :
    ∃ equation, form.toEquation = .ok equation ∧ 0 ≤ equation.var ∧ equation.rhs.nesting ≤ Form.nestingLimit ∧
      equation.EncodedBy json := by
  obtain ⟨value, rhs, hparts, hjson⟩ := ofJson?_eq_some_iff.mp hform
  obtain ⟨rfl, hle, hrhs⟩ := ofParts?_eq_some_iff.mp hparts
  obtain ⟨type, htype, rfl, hnesting⟩ := Form.exists_of_ofJsonWithin hrhs
  exact ⟨⟨form.var, type⟩, toEquation_eq_ok_iff.mpr ⟨rfl, htype⟩, hle, hnesting, hjson⟩

theorem exists_ofJson?_of_encodedBy (hvar : 0 ≤ equation.var)
    (hle : equation.rhs.nesting ≤ Form.nestingLimit) (hjson : equation.EncodedBy json) :
    ∃ form, ofJson? json = some form ∧ form.toEquation = .ok equation := by
  obtain ⟨rhs, hrhs, htype⟩ := Form.exists_ofJsonWithin_toJson hle
  have hparts : ofParts? (.int equation.var) equation.rhs.toJson = some ⟨equation.var, rhs⟩ :=
    ofParts?_eq_some_iff.mpr ⟨rfl, hvar, hrhs⟩
  exact ⟨⟨equation.var, rhs⟩, ofJson?_eq_some_iff.mpr ⟨_, _, hparts, hjson⟩,
    toEquation_eq_ok_iff.mpr ⟨rfl, htype⟩⟩

end EquationForm

end Wire

/-- **Reading an equation.** Its members may stand in either order, and its variable may not be negative. -/
theorem Equation.ofJson?_eq_some_iff :
    Equation.ofJson? json = some equation ↔
      0 ≤ equation.var ∧ equation.rhs.nesting ≤ Form.nestingLimit ∧ equation.EncodedBy json := by
  constructor
  · intro hread
    obtain ⟨form, hform, hequation⟩ := Option.bind_eq_some_iff.mp hread
    obtain ⟨found, hfound, hfacts⟩ := EquationForm.exists_of_ofJson? hform
    rw [hfound] at hequation
    cases hequation
    exact hfacts
  · rintro ⟨hvar, hle, hjson⟩
    obtain ⟨form, hform, hequation⟩ := EquationForm.exists_ofJson?_of_encodedBy hvar hle hjson
    exact Option.bind_eq_some_iff.mpr ⟨form, hform, by rw [hequation]; rfl⟩

namespace Wire

section Decode

variable {α : Type} {subject : Subject} {ofJson? : Json → Option α}

theorem decode_eq_ok_iff {value : α} : decode subject ofJson? json = .ok value ↔ ofJson? json = some value := by
  cases hread : ofJson? json <;> simp [decode, hread]

/-- Whatever is not decoded is refused with one and the same error. -/
theorem decode_eq_error_iff :
    decode subject ofJson? json = .error ⟨subject, .form⟩ ↔ ¬∃ value, decode subject ofJson? json = .ok value := by
  cases hread : ofJson? json <;> simp [decode, hread]

end Decode

theorem decodeType_eq_ok_iff :
    decodeType json = .ok type ↔ json = type.toJson ∧ type.nesting ≤ Form.nestingLimit :=
  decode_eq_ok_iff.trans Ty.ofJson?_eq_some_iff

theorem decodeEquation_eq_ok_iff :
    decodeEquation json = .ok equation ↔
      0 ≤ equation.var ∧ equation.rhs.nesting ≤ Form.nestingLimit ∧ equation.EncodedBy json :=
  decode_eq_ok_iff.trans Equation.ofJson?_eq_some_iff

/-- Decoding inverts encoding and takes nothing else: a value is decoded just when it is an encoded type of at
most 254 objects inside one another, or the members of an encoded equation of such a type for no negative
number. Any other value has not the form of its subject; a value that has it is never refused later on. -/
theorem decode_eq_ok_iff_encoded (json : Json) :
    (∀ type, decodeType json = .ok type ↔ json = type.toJson ∧ type.nesting ≤ 254) ∧
    (decodeType json = .error ⟨.type, .form⟩ ↔ ¬∃ type : Ty, json = type.toJson ∧ type.nesting ≤ 254) ∧
    (∀ form, Form.ofJson? json = some form → ∃ type, form.toTy = .ok type) ∧
    (∀ equation, decodeEquation json = .ok equation ↔
      0 ≤ equation.var ∧ equation.rhs.nesting ≤ 254 ∧ equation.EncodedBy json) ∧
    (decodeEquation json = .error ⟨.equation, .form⟩ ↔
      ¬∃ equation : Equation, 0 ≤ equation.var ∧ equation.rhs.nesting ≤ 254 ∧ equation.EncodedBy json) ∧
    (∀ form, EquationForm.ofJson? json = some form → ∃ equation, form.toEquation = .ok equation) ∧
    (∀ equation : Equation, equation.var < 0 → equation.EncodedBy json →
      decodeEquation json = .error ⟨.equation, .form⟩) := by
  refine ⟨fun type => decodeType_eq_ok_iff, ?_, ?_, fun equation => decodeEquation_eq_ok_iff, ?_, ?_, ?_⟩
  · exact decode_eq_error_iff.trans (not_congr (exists_congr fun type => decodeType_eq_ok_iff))
  · intro form hform
    obtain ⟨type, htype, -⟩ := Form.exists_of_ofJsonWithin hform
    exact ⟨type, htype⟩
  · exact decode_eq_error_iff.trans (not_congr (exists_congr fun equation => decodeEquation_eq_ok_iff))
  · intro form hform
    obtain ⟨equation, hequation, -⟩ := EquationForm.exists_of_ofJson? hform
    exact ⟨equation, hequation⟩
  · intro equation hneg hencoded
    refine decode_eq_error_iff.mpr fun ⟨found, hfound⟩ => ?_
    obtain ⟨hvar, -, hencoded'⟩ := decodeEquation_eq_ok_iff.mp hfound
    exact absurd hvar (Int.not_le.mpr (hencoded.var_eq hencoded' ▸ hneg))

/-- The form of a pair becomes a type and the form of an equation an equation; what is written for a negative
number is not read back. -/
theorem decode_eq_ok_iff_encoded_of_negative :
    (∃ type, (Form.pair (.var 0) (.word "Int")).toTy = .ok type) ∧
    (∃ equation, (EquationForm.mk 0 (.word "Int")).toEquation = .ok equation) ∧
    decodeEquation (Equation.toJson ⟨-1, .int⟩) = .error ⟨.equation, .form⟩ := by
  have hform : Form.ofJson? (.obj [("Tuple", .arr [.obj [("Var", .int 0)], .str "Int"])]) =
      some (.pair (.var 0) (.word "Int")) := by decide
  have hform' : EquationForm.ofJson? (.obj [("rhs", .str "Int"), ("var", .int 0)]) = some ⟨0, .word "Int"⟩ := by
    decide
  have hencoded : Equation.EncodedBy ⟨-1, .int⟩ (Equation.toJson ⟨-1, .int⟩) := .inl rfl
  exact ⟨(decode_eq_ok_iff_encoded _).2.2.1 _ hform, (decode_eq_ok_iff_encoded _).2.2.2.2.2.1 _ hform',
    (decode_eq_ok_iff_encoded _).2.2.2.2.2.2 _ (by decide) hencoded⟩

end Wire

end TypeEquations
