import TypeEquations.Proofs.Decoding
import TypeEquations.Proofs.Reading

/-!
# Documents that are written and read back

A type that was written is read back unless it lies too deep, and so is a list of equations for variables that
are not negative. Where the reader stops depends on the arrays and objects of the text, not on the form of what is
read.
-/

namespace TypeEquations

open Wire Json

variable {type : Ty} {equation : Equation} {equations : Equations}

/-! ## Types -/

namespace Ty

def depth : Ty → Nat
  | fn left right => max left.depth right.depth + 2
  | pair left right => max left.depth right.depth + 2
  | var _ => 1
  | bool => 0
  | int => 0

def Legible (type : Ty) : Prop :=
  ∀ id ∈ type.occurrences, FewDigits id

theorem nesting_le_depth : type.nesting ≤ type.depth := by
  induction type with
  | fn left right ihl ihr => simp only [nesting, depth]; omega
  | pair left right ihl ihr => simp only [nesting, depth]; omega
  | var id => exact Nat.le_refl _
  | bool => exact Nat.le_refl _
  | int => exact Nat.le_refl _

theorem depth_toJson : type.toJson.depth = type.depth := by
  induction type with
  | fn left right ihl ihr => simp [toJson, Json.depth, depthOfMembers, depthOfItems, depth, ihl, ihr]
  | pair left right ihl ihr => simp [toJson, Json.depth, depthOfMembers, depthOfItems, depth, ihl, ihr]
  | var id => rfl
  | bool => rfl
  | int => rfl

theorem legible_member {key : String} {value : Json} (hkey : IsPlain key) (hvalue : value.Legible) :
    (obj [(key, value)]).Legible :=
  .obj (by simpa using hkey) (by simp) (by simpa using hvalue)

theorem legible_toJson (hlegible : type.Legible) : type.toJson.Legible := by
  induction type with
  | fn left right ihl ihr =>
    have hleft := ihl fun id hid => hlegible id (List.mem_append_left _ hid)
    have hright := ihr fun id hid => hlegible id (List.mem_append_right _ hid)
    exact legible_member (by decide) (.arr (by simp [hleft, hright]))
  | pair left right ihl ihr =>
    have hleft := ihl fun id hid => hlegible id (List.mem_append_left _ hid)
    have hright := ihr fun id hid => hlegible id (List.mem_append_right _ hid)
    exact legible_member (by decide) (.arr (by simp [hleft, hright]))
  | var id => exact legible_member (by decide) (.int (hlegible id List.mem_cons_self))
  | bool => exact .str (by decide)
  | int => exact .str (by decide)

end Ty

namespace Wire

/-- A written type is read back just when it is not too deep for the reader. -/
theorem readType_writeType (hlegible : type.Legible) :
    readType (.text (writeType type)) =
      if type.depth ≤ Json.nestingLimit then .ok type else .error ⟨.type, .text⟩ := by
  rw [readType, writeType, Document.json?, read_print (Ty.legible_toJson hlegible), Ty.depth_toJson]
  by_cases hdepth : type.depth ≤ Json.nestingLimit
  · rw [if_pos hdepth, if_pos hdepth]
    exact decodeType_eq_ok_iff.mpr ⟨rfl, Nat.le_trans Ty.nesting_le_depth (Nat.le_trans hdepth (by decide))⟩
  · rw [if_neg hdepth, if_neg hdepth]

/-- An id of too many digits is no text in JSON to the reader. -/
theorem readType_writeType_var {id : Nat} (hmany : ¬FewDigits id) :
    readType (.text (writeType (.var id))) = .error ⟨.type, .text⟩ := by
  have hvalue : readValue (2 * (Ty.var id).toJson.print.length) 199 ((Json.int id).print.toList ++ '\x7d' :: []) =
      none := readValue_int_eq_none hmany (delimits_cons (.inr (.inr rfl)))
  have hread : readValue (2 * (Ty.var id).toJson.print.length + 2) nestingLimit
      ((Ty.var id).toJson.print.toList ++ []) = none := readValue_member_eq_none (by decide) hvalue
  rw [List.append_nil] at hread
  rw [readType, writeType, Document.json?, Json.read, readWithin, hread]

end Wire

/-! ## Lists of equations -/

def Equation.Legible (equation : Equation) : Prop :=
  FewDigits equation.var.natAbs ∧ equation.rhs.Legible

theorem Equation.legible_toJson (hlegible : equation.Legible) : equation.toJson.Legible := by
  have hvar : (Json.int equation.var).Legible := .int hlegible.1
  have hrhs : equation.rhs.toJson.Legible := Ty.legible_toJson hlegible.2
  exact .obj (by simp; decide) (by simp) (by simp [hvar, hrhs])

theorem Equation.depth_toJson : equation.toJson.depth = equation.rhs.depth + 1 := by
  simp [Equation.toJson, Json.depth, depthOfMembers, Ty.depth_toJson]

theorem legible_equationsToJson (hlegible : ∀ equation ∈ equations, equation.Legible) :
    (equationsToJson equations).Legible := by
  refine .arr fun json hjson => ?_
  obtain ⟨equation, hmem, rfl⟩ := List.mem_map.mp hjson
  exact Equation.legible_toJson (hlegible equation hmem)

theorem depth_equationsToJson_le_iff {limit : Nat} :
    (equationsToJson equations).depth ≤ limit + 2 ↔ ∀ equation ∈ equations, equation.rhs.depth ≤ limit := by
  cases equations with
  | nil => simp [equationsToJson, Json.depth]
  | cons equation equations =>
    have hdepth : (equationsToJson (equation :: equations)).depth =
        depthOfItems ((equation :: equations).map (·.toJson)) + 1 := by
      simp [equationsToJson, Json.depth]
    rw [hdepth, Nat.add_le_add_iff_right, depthOfItems_le_iff, List.forall_mem_map]
    simp only [Equation.depth_toJson, Nat.add_le_add_iff_right]

theorem Equation.ofJson?_toJson (hle : equation.rhs.nesting ≤ Form.nestingLimit) :
    Equation.ofJson? equation.toJson = if 0 ≤ equation.var then some equation else none := by
  split
  · rename_i hvar
    exact ofJson?_eq_some_iff.mpr ⟨hvar, hle, .inl rfl⟩
  · rename_i hvar
    refine Option.eq_none_iff_forall_ne_some.mpr fun found hfound => hvar ?_
    obtain ⟨hvar, -, hencoded⟩ := ofJson?_eq_some_iff.mp hfound
    have hequal : equation.var = found.var := EncodedBy.var_eq (.inl rfl) hencoded
    exact hequal ▸ hvar

theorem equationsOfJson?_equationsToJson
    (hle : ∀ equation ∈ equations, equation.rhs.nesting ≤ Form.nestingLimit) :
    equationsOfJson? (equationsToJson equations) =
      if ∀ equation ∈ equations, 0 ≤ equation.var then some equations else none := by
  rw [equationsToJson, equationsOfJson?]
  induction equations with
  | nil => simp
  | cons equation equations ih =>
    obtain ⟨hfirst, hrest⟩ := List.forall_mem_cons.mp hle
    rw [List.map_cons, List.mapM_cons, Equation.ofJson?_toJson hfirst, ih hrest]
    have hall : (∀ other ∈ equation :: equations, 0 ≤ other.var) ↔
        0 ≤ equation.var ∧ ∀ other ∈ equations, 0 ≤ other.var := List.forall_mem_cons
    by_cases hvar : 0 ≤ equation.var
    · by_cases hvars : ∀ other ∈ equations, 0 ≤ other.var
      · rw [if_pos hvar, if_pos hvars, if_pos (hall.mpr ⟨hvar, hvars⟩)]
        rfl
      · rw [if_pos hvar, if_neg hvars, if_neg fun h => hvars (hall.mp h).2]
        rfl
    · rw [if_neg hvar, if_neg fun h => hvar (hall.mp h).1]
      rfl

/-- Too deep a right side is noticed before a negative left side. -/
theorem Wire.readEquations_writeEquations (hlegible : ∀ equation ∈ equations, equation.Legible) :
    readEquations (.text (writeEquations equations)) =
      if ∀ equation ∈ equations, equation.rhs.depth ≤ 198 then
        if ∀ equation ∈ equations, 0 ≤ equation.var then .ok equations else .error ⟨.equations, .form⟩
      else .error ⟨.equations, .text⟩ := by
  have hlimit : (equationsToJson equations).depth ≤ Json.nestingLimit ↔
      ∀ equation ∈ equations, equation.rhs.depth ≤ 198 := depth_equationsToJson_le_iff
  rw [readEquations, writeEquations, Document.json?, read_print (legible_equationsToJson hlegible)]
  by_cases hdepth : ∀ equation ∈ equations, equation.rhs.depth ≤ 198
  · have hnesting (equation : Equation) (hmem : equation ∈ equations) :
        equation.rhs.nesting ≤ Form.nestingLimit :=
      Nat.le_trans Ty.nesting_le_depth (Nat.le_trans (hdepth equation hmem) (by decide))
    rw [if_pos hdepth, if_pos (hlimit.mpr hdepth)]
    simp only [decodeEquations, decode, equationsOfJson?_equationsToJson hnesting]
    by_cases hvars : ∀ equation ∈ equations, 0 ≤ equation.var
    · rw [if_pos hvars, if_pos hvars]
    · rw [if_neg hvars, if_neg hvars]
  · rw [if_neg hdepth, if_neg (mt hlimit.mp hdepth)]

namespace Wire

/-- What was written is read back, unless it lies too deep for the reader or a variable is negative; then it is
refused. The bounds are those on the arrays and objects of a text, of which a list of equations takes two. -/
theorem read_write :
    (∀ type : Ty, type.Legible →
      readType (.text (writeType type)) = if type.depth ≤ 200 then .ok type else .error ⟨.type, .text⟩) ∧
    (∀ equations : Equations, (∀ equation ∈ equations, equation.Legible) →
      (readEquations (.text (writeEquations equations)) = .ok equations ↔
        ∀ equation ∈ equations, 0 ≤ equation.var ∧ equation.rhs.depth ≤ 198) ∧
      ((∃ error, readEquations (.text (writeEquations equations)) = .error error) ↔
        ¬∀ equation ∈ equations, 0 ≤ equation.var ∧ equation.rhs.depth ≤ 198)) := by
  refine ⟨fun type hlegible => readType_writeType hlegible, fun equations hlegible => ?_⟩
  have hsplit : (∀ equation ∈ equations, 0 ≤ equation.var ∧ equation.rhs.depth ≤ 198) ↔
      (∀ equation ∈ equations, 0 ≤ equation.var) ∧ ∀ equation ∈ equations, equation.rhs.depth ≤ 198 :=
    ⟨fun h => ⟨fun e he => (h e he).1, fun e he => (h e he).2⟩, fun h e he => ⟨h.1 e he, h.2 e he⟩⟩
  rw [readEquations_writeEquations hlegible, hsplit]
  by_cases hdepth : ∀ equation ∈ equations, equation.rhs.depth ≤ 198
  · by_cases hvars : ∀ equation ∈ equations, 0 ≤ equation.var
    · rw [if_pos hdepth, if_pos hvars]
      exact ⟨iff_of_true rfl ⟨hvars, hdepth⟩, iff_of_false nofun (not_not_intro ⟨hvars, hdepth⟩)⟩
    · rw [if_pos hdepth, if_neg hvars]
      exact ⟨iff_of_false nofun (hvars ·.1), iff_of_true ⟨_, rfl⟩ (hvars ·.1)⟩
  · rw [if_neg hdepth]
    exact ⟨iff_of_false nofun (hdepth ·.2), iff_of_true ⟨_, rfl⟩ (hdepth ·.2)⟩

/-- A function is read back; an equation for a negative variable is written and refused. -/
theorem read_write_of_negative :
    readType (.text (writeType (.fn (.var 0) .bool))) = .ok (.fn (.var 0) .bool) ∧
    ∃ error, readEquations (.text (writeEquations [⟨-1, .var 0⟩])) = .error error := by
  have hids (id : Nat) (hmem : id ∈ [0]) : FewDigits id := List.mem_singleton.mp hmem ▸ by decide
  have hequations (equation : Equation) (hmem : equation ∈ [⟨-1, .var 0⟩]) : equation.Legible :=
    List.mem_singleton.mp hmem ▸ ⟨by decide, hids⟩
  refine ⟨(read_write.1 (.fn (.var 0) .bool) hids).trans (if_pos (by decide)), (read_write.2 _ hequations).2.mpr ?_⟩
  exact fun hall => absurd (hall _ List.mem_cons_self).1 (by decide)

/-- A variable whose id has one digit too many is written and not read back. -/
theorem readType_writeType_ne :
    Ty.depth (.var (Nat.pow 10 Text.digitLimit)) ≤ 200 ∧
    readType (.text (writeType (.var (Nat.pow 10 Text.digitLimit)))) ≠ .ok (.var (Nat.pow 10 Text.digitLimit)) := by
  have hmany : ¬FewDigits (Nat.pow 10 Text.digitLimit) :=
    Nat.not_le.mpr (Text.lt_length_toDigits_pow (by decide))
  have hdepth : Ty.depth (.var (Nat.pow 10 Text.digitLimit)) ≤ 200 := (by decide : 1 ≤ 200)
  refine ⟨hdepth, ?_⟩
  rw [readType_writeType_var hmany]
  nofun

end Wire

end TypeEquations
