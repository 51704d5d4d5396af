import TypeEquations.Equations

/-!
# Assignments

What equations say: a choice of a type for every variable solves an equation when it makes both sides the
same type. Only finite types are chosen, so that a variable never equals a type around it.
-/

namespace TypeEquations

abbrev Assignment := Int → Ty

/-- The type with all its variables replaced at once. -/
def Ty.image (assignment : Assignment) : Ty → Ty
  | fn left right => fn (left.image assignment) (right.image assignment)
  | pair left right => pair (left.image assignment) (right.image assignment)
  | var id => assignment id
  | bool => bool
  | int => int

theorem Ty.image_of_occurrences_eq_nil {type : Ty} (hground : type.occurrences = [])
    (assignment : Assignment) : type.image assignment = type := by
  induction type with
  | fn left right ihl ihr | pair left right ihl ihr =>
    rw [occurrences, List.append_eq_nil_iff] at hground
    rw [image, ihl hground.1, ihr hground.2]
  | var id => cases hground
  | bool | int => rfl

def Equation.Holds (equation : Equation) (assignment : Assignment) : Prop :=
  assignment equation.var = equation.rhs.image assignment

namespace Assignment

def Solves (assignment : Assignment) (equations : Equations) : Prop :=
  ∀ equation ∈ equations, equation.Holds assignment

def Unifies (assignment : Assignment) (pairs : List (Ty × Ty)) : Prop :=
  ∀ types ∈ pairs, types.1.image assignment = types.2.image assignment

variable {assignment : Assignment}

@[simp]
theorem solves_nil : assignment.Solves [] := by
  simp [Solves]

@[simp]
theorem solves_cons {equation : Equation} {equations : Equations} :
    assignment.Solves (equation :: equations) ↔
      equation.Holds assignment ∧ assignment.Solves equations := by
  simp [Solves]

@[simp]
theorem solves_append {equations equations' : Equations} :
    assignment.Solves (equations ++ equations') ↔
      assignment.Solves equations ∧ assignment.Solves equations' := by
  simp [Solves, or_imp, forall_and]

@[simp]
theorem unifies_nil : assignment.Unifies [] := by
  simp [Unifies]

@[simp]
theorem unifies_cons {types : Ty × Ty} {pairs : List (Ty × Ty)} :
    assignment.Unifies (types :: pairs) ↔
      types.1.image assignment = types.2.image assignment ∧ assignment.Unifies pairs := by
  simp [Unifies]

end Assignment

namespace Equations

/-- The image of a variable is the image of the right side of its first equation. -/
theorem image_rhs_of_lookup? {equations : Equations} {x : Int} {equation : Equation}
    {assignment : Assignment} (hsolves : assignment.Solves equations)
    (hfound : equations.lookup? x = some equation) :
    equation.rhs.image assignment = assignment x := by
  rw [← var_of_lookup? hfound]
  exact (hsolves equation (mem_of_lookup? hfound)).symm

end Equations

end TypeEquations
