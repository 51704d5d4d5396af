import TypeEquations.Proofs.Substitution

/-!
# Positions

The places in a type. A substitution puts the right side of an equation in the place of one variable and
leaves all other places as they are.
-/

namespace TypeEquations

inductive Side where
  | left
  | right
deriving DecidableEq

abbrev Position := List Side

/-! ### From left to right -/

namespace Position

/-- Where the ways part, this one goes to the left and the other one to the right. -/
def LeftOf (position other : Position) : Prop :=
  ∃ fork : Position, fork ++ [.left] <+: position ∧ fork ++ [.right] <+: other

variable {position other : Position} {side side' : Side}

@[simp]
theorem not_nil_leftOf : ¬ LeftOf [] other := by
  simp [LeftOf]

@[simp]
theorem not_leftOf_nil : ¬ LeftOf position [] := by
  simp [LeftOf]

@[simp]
theorem cons_leftOf_cons :
    LeftOf (side :: position) (side' :: other) ↔
      side = .left ∧ side' = .right ∨ side = side' ∧ position.LeftOf other := by
  constructor
  · rintro ⟨fork, hposition, hother⟩
    cases fork with
    | nil =>
      rw [List.nil_append, List.cons_prefix_cons] at hposition hother
      exact .inl ⟨hposition.1.symm, hother.1.symm⟩
    | cons first fork =>
      rw [List.cons_append, List.cons_prefix_cons] at hposition hother
      exact .inr ⟨hposition.1.symm.trans hother.1, fork, hposition.2, hother.2⟩
  · rintro (⟨rfl, rfl⟩ | ⟨rfl, fork, hposition, hother⟩)
    · exact ⟨[], by simp, by simp⟩
    · exact ⟨side :: fork, by simpa using hposition, by simpa using hother⟩

theorem LeftOf.asymm (h : position.LeftOf other) : ¬ other.LeftOf position := by
  induction position generalizing other with
  | nil => simp at h
  | cons side position ih =>
    cases other with
    | nil => simp at h
    | cons side' other =>
      rw [cons_leftOf_cons] at h ⊢
      rcases h with ⟨rfl, rfl⟩ | ⟨rfl, h⟩
      · simp
      · cases side <;> simpa using ih h

end Position

namespace Ty

def part? : Ty → Position → Option Ty
  | type, [] => some type
  | fn left _, .left :: rest => left.part? rest
  | fn _ right, .right :: rest => right.part? rest
  | pair left _, .left :: rest => left.part? rest
  | pair _ right, .right :: rest => right.part? rest
  | _, _ :: _ => none

def replace : Ty → Position → Ty → Ty
  | _, [], new => new
  | fn left right, .left :: rest, new => fn (left.replace rest new) right
  | fn left right, .right :: rest, new => fn left (right.replace rest new)
  | pair left right, .left :: rest, new => pair (left.replace rest new) right
  | pair left right, .right :: rest, new => pair left (right.replace rest new)
  | type, _ :: _, _ => type

variable {assignment : Assignment} {type part new : Ty} {position : Position}

@[simp]
theorem part?_nil (type : Ty) : type.part? [] = some type := by
  rw [part?]

theorem mem_occurrences_of_part? {x : Nat} (hpart : type.part? position = some (.var x)) :
    x ∈ type.occurrences := by
  fun_induction part? type position with
  | case1 type =>
    cases hpart
    exact List.mem_singleton_self x
  | case2 left right rest ih | case4 left right rest ih => exact List.mem_append_left _ (ih hpart)
  | case3 left right rest ih | case5 left right rest ih => exact List.mem_append_right _ (ih hpart)
  | case6 => cases hpart

/-- A part may give way to one with the same image. -/
theorem image_replace (hpart : type.part? position = some part)
    (himage : new.image assignment = part.image assignment) :
    (type.replace position new).image assignment = type.image assignment := by
  fun_induction part? type position with
  | case1 type =>
    cases hpart
    rw [replace, himage]
  | case2 left right rest ih | case3 left right rest ih | case4 left right rest ih
  | case5 left right rest ih => rw [replace, image, image, ih hpart]
  | case6 => cases hpart

theorem sizeOf_image_le_replace (hpart : type.part? position = some part) :
    sizeOf (new.image assignment) ≤ sizeOf ((type.replace position new).image assignment) := by
  fun_induction part? type position with
  | case1 type => exact Nat.le_of_eq (by rw [replace])
  | case2 left right rest ih | case3 left right rest ih =>
    have hle := ih hpart
    rw [replace, image, fn.sizeOf_spec]
    omega
  | case4 left right rest ih | case5 left right rest ih =>
    have hle := ih hpart
    rw [replace, image, pair.sizeOf_spec]
    omega
  | case6 => cases hpart

theorem mem_occurrences_of_replace {x : Nat} (hx : x ∈ (type.replace position new).occurrences) :
    x ∈ type.occurrences ∨ x ∈ new.occurrences := by
  fun_induction replace type position new with
  | case1 type new => exact .inr hx
  | case2 left right rest new ih | case4 left right rest new ih =>
    simp only [occurrences, List.mem_append] at hx ⊢
    rcases hx with hx | hx
    · exact (ih hx).imp_left .inl
    · exact .inl (.inr hx)
  | case3 left right rest new ih | case5 left right rest new ih =>
    simp only [occurrences, List.mem_append] at hx ⊢
    rcases hx with hx | hx
    · exact .inl (.inl hx)
    · exact (ih hx).imp_left .inr
  | case6 => exact .inl hx

/-- Nothing is below a variable, so one of two variables is to the left of the other. -/
theorem eq_or_leftOf_of_part? {x y : Nat} {other : Position} (hpart : type.part? position = some (.var x))
    (hother : type.part? other = some (.var y)) :
    other = position ∨ other.LeftOf position ∨ position.LeftOf other := by
  fun_induction part? type position generalizing other with
  | case1 type =>
    cases hpart
    cases other with
    | nil => exact .inl rfl
    | cons side other => cases side <;> simp [part?] at hother
  | case2 left right rest ih | case4 left right rest ih =>
    rcases other with _ | ⟨_ | _, other⟩
    · simp [part?] at hother
    · simpa using ih hpart hother
    · simp
  | case3 left right rest ih | case5 left right rest ih =>
    rcases other with _ | ⟨_ | _, other⟩
    · simp [part?] at hother
    · simp
    · simpa using ih hpart hother
  | case6 => cases hpart

/-- Beside the position of a replacement all parts stay. -/
theorem part?_replace_of_leftOf {other : Position} (hbeside : other.LeftOf position ∨ position.LeftOf other) :
    (type.replace position new).part? other = type.part? other := by
  fun_induction replace type position new generalizing other with
  | case1 type new => simp at hbeside
  | case2 left right rest new ih | case3 left right rest new ih | case4 left right rest new ih
  | case5 left right rest new ih =>
    rcases other with _ | ⟨_ | _, other⟩
    · simp at hbeside
    · simp_all [part?]
    · simp_all [part?]
  | case6 => rfl

theorem part?_replace (hpart : type.part? position = some part) :
    (type.replace position new).part? position = some new := by
  fun_induction part? type position with
  | case1 type => rw [replace, part?]
  | case2 left right rest ih | case3 left right rest ih | case4 left right rest ih
  | case5 left right rest ih => rw [replace, part?, ih hpart]
  | case6 => cases hpart

/-! ### The position of a substitution -/

variable {equations : Equations} {equation : Equation}

/-- Where nothing fires, nothing changes and nothing is heard. -/
theorem substitute_of_fired_eq_none (hfired : (type.substitute equations).fired = none) :
    type.substitute equations = ⟨type, none, []⟩ := by
  induction type with
  | fn left right ihl ihr | pair left right ihl ihr =>
    by_cases hleft : (left.substitute equations).fired = none
    · simp only [substitute, hleft, Option.isSome_none, Bool.false_eq_true, if_false] at hfired ⊢
      simp [ihl hleft, ihr hfired]
    · simp [substitute, Option.isSome_iff_ne_none, hleft] at hfired
  | var x =>
    rw [substitute] at hfired ⊢
    split at hfired
    · cases hfired
    · rfl
  | bool | int => rfl

theorem type_substitute_of_fired_eq_none (hfired : (type.substitute equations).fired = none) :
    (type.substitute equations).type = type := by
  rw [substitute_of_fired_eq_none hfired]

/-- A substitution replaces the leftmost variable that has an equation by the right side of its first one,
and tells of this alone. -/
theorem exists_leftmost_of_fired (hfired : (type.substitute equations).fired = some equation) :
    ∃ (position : Position) (x : Nat), type.part? position = some (.var x) ∧
      equations.lookup? x = some equation ∧
      (∀ (other : Position) (y : Nat), other.LeftOf position → type.part? other = some (.var y) →
        equations.lookup? y = none) ∧
      type.substitute equations =
        ⟨type.replace position equation.rhs, some equation, [⟨equation, .var x, equation.rhs⟩]⟩ := by
  induction type with
  | fn left right ihl ihr | pair left right ihl ihr =>
    by_cases hleft : (left.substitute equations).fired = none
    · have hnone := substitute_of_fired_eq_none hleft
      simp only [substitute, hnone, Option.isSome_none, Bool.false_eq_true, if_false,
        List.nil_append] at hfired ⊢
      obtain ⟨position, x, hpart, hfound, hbefore, hattempt⟩ := ihr hfired
      refine ⟨.right :: position, x, hpart, hfound, ?_, by simp [hattempt, replace]⟩
      rintro (_ | ⟨_ | _, other⟩) y hleftOf hother
      · simp at hleftOf
      · -- nothing on the left has an equation
        exact fired_substitute_eq_none_iff.mp hleft y (mem_occurrences_of_part? hother)
      · exact hbefore other y (by simpa using hleftOf) hother
    · simp only [substitute, Option.isSome_iff_ne_none, ne_eq, hleft, not_false_eq_true, if_true]
        at hfired ⊢
      obtain ⟨position, x, hpart, hfound, hbefore, hattempt⟩ := ihl hfired
      refine ⟨.left :: position, x, hpart, hfound, ?_, by simp [hattempt, replace]⟩
      rintro (_ | ⟨_ | _, other⟩) y hleftOf hother
      · simp at hleftOf
      · exact hbefore other y (by simpa using hleftOf) hother
      · simp at hleftOf
  | var x =>
    rw [substitute] at hfired ⊢
    split at hfired
    · rename_i hfound
      cases hfired
      exact ⟨[], x, rfl, hfound, fun _ _ hleftOf => absurd hleftOf Position.not_leftOf_nil, rfl⟩
    · cases hfired
  | bool | int => cases hfired

/-- A substitution replaces one variable by the right side of its first equation. -/
theorem exists_replace_of_fired (hfired : (type.substitute equations).fired = some equation) :
    ∃ (position : Position) (x : Nat), type.part? position = some (.var x) ∧
      equations.lookup? x = some equation ∧
      (type.substitute equations).type = type.replace position equation.rhs := by
  obtain ⟨position, x, hpart, hfound, _, hattempt⟩ := exists_leftmost_of_fired hfired
  exact ⟨position, x, hpart, hfound, congrArg Attempt.type hattempt⟩

/-- A solution of the equation that fires does not see the substitution. -/
theorem image_substitute (hfired : (type.substitute equations).fired = some equation)
    (hholds : equation.Holds assignment) :
    (type.substitute equations).type.image assignment = type.image assignment := by
  obtain ⟨position, x, hpart, hfound, htype⟩ := exists_replace_of_fired hfired
  rw [htype]
  apply image_replace hpart
  rw [image, ← Equations.var_of_lookup? hfound]
  exact hholds.symm

end Ty

end TypeEquations
