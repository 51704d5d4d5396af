import TypeEquations.Elimination
import TypeEquations.Proofs.Position

/-!
# The leftmost variable with an equation

A substitution is possible in a type exactly if the type is not resolved. It then takes place at one position,
that of the leftmost variable which has an equation, and nowhere else.
-/

namespace TypeEquations

structure Equations.LeftmostIn (equations : Equations) (type : Ty) (position : Position) (x : Nat) : Prop where
  part : type.part? position = some (.var x)
  defined : (x : Int) ∈ equations.leftVars
  leftmost : ∀ (other : Position) (y : Nat), other.LeftOf position → type.part? other = some (.var y) →
    (y : Int) ∉ equations.leftVars

namespace Equations

variable {equations : Equations} {type : Ty} {position other : Position} {x y : Nat}

theorem mem_leftVars_iff {x : Int} : x ∈ equations.leftVars ↔ equations.lookup? x ≠ none := by
  rw [leftVars, mem_ascending, ne_eq, lookup?_eq_none_iff]
  simp

/-- There is only one leftmost position. -/
theorem LeftmostIn.unique (h : equations.LeftmostIn type position x) (h' : equations.LeftmostIn type other y) :
    other = position := by
  rcases Ty.eq_or_leftOf_of_part? h.part h'.part with heq | hleftOf | hleftOf
  · exact heq
  · exact absurd h'.defined (h.leftmost other y hleftOf h'.part)
  · exact absurd h.defined (h'.leftmost position x hleftOf h.part)

end Equations

variable {equations : Equations} {type : Ty}

/-- An equation fires just when some variable of the type stands on a left side. -/
theorem Ty.isSome_fired_iff :
    (type.substitute equations).fired.isSome = true ↔ ∃ x ∈ type.vars, (x : Int) ∈ equations.leftVars := by
  rw [Option.isSome_iff_ne_none, ne_eq, Ty.fired_substitute_eq_none_iff]
  simp [Equations.mem_leftVars_iff]

/-- **One substitution.** It is possible exactly if some variable of the type has an equation, that is, if the
type is not resolved. It replaces the leftmost such variable by the right side of its first equation, leaves
all parts beside it as they are, and tells of this equation once; otherwise it changes and tells nothing. -/
theorem substitute_leftmost (equations : Equations) (type : Ty) :
    ((type.substitute equations).fired.isSome = true ↔ ∃ x ∈ type.vars, (x : Int) ∈ equations.leftVars) ∧
    (∀ state : Elimination, state.equations = equations →
      ((type.substitute equations).fired.isSome = true ↔ state.isResolved type = false)) ∧
    ((type.substitute equations).fired = none → type.substitute equations = ⟨type, none, []⟩) ∧
    ((type.substitute equations).fired.isSome = true →
      ∃ position x equation, equations.LeftmostIn type position x ∧
        (∀ other y, equations.LeftmostIn type other y → other = position) ∧
        equations.lookup? x = some equation ∧
        type.substitute equations =
          ⟨type.replace position equation.rhs, some equation, [⟨equation, .var x, equation.rhs⟩]⟩ ∧
        (type.replace position equation.rhs).part? position = some equation.rhs ∧
        ∀ other : Position, other.LeftOf position ∨ position.LeftOf other →
          (type.replace position equation.rhs).part? other = type.part? other) := by
  refine ⟨Ty.isSome_fired_iff, ?_, Ty.substitute_of_fired_eq_none, ?_⟩
  · rintro state rfl
    rw [Elimination.isResolved, Option.isSome_iff_ne_none, ne_eq, ← Equations.isResolved_iff_fired]
    simp
  · intro hfired
    obtain ⟨equation, hequation⟩ := Option.isSome_iff_exists.mp hfired
    obtain ⟨position, x, hpart, hfound, hleft, hattempt⟩ := Ty.exists_leftmost_of_fired hequation
    have hleftmost : equations.LeftmostIn type position x := by
      refine ⟨hpart, Equations.mem_leftVars_iff.mpr (by simp [hfound]), fun other y hleftOf hother => ?_⟩
      rw [Equations.mem_leftVars_iff, not_not]
      exact hleft other y hleftOf hother
    exact ⟨position, x, equation, hleftmost, fun _ _ => hleftmost.unique, hfound, hattempt,
      Ty.part?_replace hpart, fun _ => Ty.part?_replace_of_leftOf⟩

/-- The variable `4` on the left has no equation, `1` has two, and `0` on the right has to wait. -/
theorem substitute_leftmost_of_second_variable :
    let equations : Equations := [⟨0, .int⟩, ⟨1, .pair (.var 1) (.var 0)⟩, ⟨1, .bool⟩]
    let type : Ty := .pair (.fn (.var 4) (.var 1)) (.var 0)
    (type.substitute equations).fired.isSome = true ∧
      ∃ position, equations.LeftmostIn type position 1 ∧
        type.replace position (.pair (.var 1) (.var 0)) =
          .pair (.fn (.var 4) (.pair (.var 1) (.var 0))) (.var 0) := by
  intro equations type
  obtain ⟨position, x, equation, hleftmost, -, -, hattempt, -⟩ :=
    (substitute_leftmost equations type).2.2.2 rfl
  have hfirings : [Firing.mk ⟨1, .pair (.var 1) (.var 0)⟩ (.var 1) (.pair (.var 1) (.var 0))] =
      [⟨equation, .var x, equation.rhs⟩] := congrArg Attempt.firings hattempt
  cases hfirings
  exact ⟨rfl, position, hleftmost, (congrArg Attempt.type hattempt).symm⟩

end TypeEquations
