import TypeEquations.Equate
import TypeEquations.Proofs.Assignment

/-!
# What equating types means

The equations of two types have exactly the assignments as solutions that make the types equal, and where
there is a mismatch no assignment does.
-/

namespace TypeEquations

variable {assignment : Assignment}

theorem concat_eq_ok_iff {first second : Except Mismatch (List Equation)} {equations : List Equation} :
    (do
      let lefts ← first
      let rights ← second
      return lefts ++ rights) = .ok equations ↔
      ∃ lefts rights, first = .ok lefts ∧ second = .ok rights ∧ lefts ++ rights = equations := by
  cases first <;> cases second <;> simp [bind, Except.bind, pure, Except.pure]

theorem concat_eq_error_iff {first second : Except Mismatch (List Equation)} {mismatch : Mismatch} :
    (do
      let lefts ← first
      let rights ← second
      return lefts ++ rights) = .error mismatch ↔
      first = .error mismatch ∨ ∃ lefts, first = .ok lefts ∧ second = .error mismatch := by
  cases first <;> cases second <;> simp [bind, Except.bind, pure, Except.pure]

def Assignment.SolvesResult (assignment : Assignment) (result : Except Mismatch (List Equation)) : Prop :=
  ∃ equations, result = .ok equations ∧ assignment.Solves equations

namespace Assignment

@[simp]
theorem solvesResult_ok {equations : List Equation} :
    assignment.SolvesResult (.ok equations) ↔ assignment.Solves equations := by
  simp [SolvesResult]

@[simp]
theorem solvesResult_error {mismatch : Mismatch} : ¬ assignment.SolvesResult (.error mismatch) := by
  simp [SolvesResult]

theorem solvesResult_concat {first second : Except Mismatch (List Equation)} :
    assignment.SolvesResult (do
      let lefts ← first
      let rights ← second
      return lefts ++ rights) ↔
      assignment.SolvesResult first ∧ assignment.SolvesResult second := by
  simp only [SolvesResult, concat_eq_ok_iff]
  constructor
  · rintro ⟨_, ⟨lefts, rights, hfirst, hsecond, rfl⟩, hsolves⟩
    rw [solves_append] at hsolves
    exact ⟨⟨lefts, hfirst, hsolves.1⟩, ⟨rights, hsecond, hsolves.2⟩⟩
  · rintro ⟨⟨lefts, hfirst, hlefts⟩, ⟨rights, hsecond, hrights⟩⟩
    exact ⟨_, ⟨lefts, rights, hfirst, hsecond, rfl⟩, solves_append.mpr ⟨hlefts, hrights⟩⟩

/-- Induction on both types at once; the constructors that may differ meet only in the last case. -/
theorem solvesResult_equate (left right : Ty) :
    assignment.SolvesResult (left.equate right) ↔ left.image assignment = right.image assignment := by
  fun_induction Ty.equate left right with
  | case1 left right left' right' ihl ihr =>
    rw [solvesResult_concat, ihl, ihr, Ty.image, Ty.image, Ty.fn.injEq]
  | case2 left right left' right' ihl ihr =>
    rw [solvesResult_concat, ihl, ihr, Ty.image, Ty.image, Ty.pair.injEq]
  | case3 x y =>
    rcases Nat.lt_trichotomy x y with hlt | rfl | hgt
    · simp [hlt, Equation.Holds, Ty.image]
    · simp [Ty.image]
    · simp [hgt, Nat.lt_asymm hgt, Equation.Holds, Ty.image, eq_comm]
  | case4 x type => simp [Equation.Holds, Ty.image]
  | case5 type x => simp [Equation.Holds, Ty.image, eq_comm]
  | case6 => simp
  | case7 => simp
  | case8 left right hfn hpair hvars hleft hright hbool hint =>
    have himage : left.image assignment ≠ right.image assignment := by
      cases left <;> cases right <;> grind [Ty.image]
    simpa using himage

/-- What equating all pairs gives is solved just when they are all unified. -/
theorem solvesResult_equateAll (pairs : List (Ty × Ty)) :
    assignment.SolvesResult (equateAll pairs) ↔ assignment.Unifies pairs := by
  induction pairs with
  | nil => simp [equateAll]
  | cons types rest ih =>
    rw [equateAll, solvesResult_concat, solvesResult_equate, ih, unifies_cons]

end Assignment

/-- **Soundness and completeness.** The equations of two types, or of many pairs, are solved by exactly the
assignments that make them equal; a mismatch rules all assignments out. -/
theorem image_eq_iff_solves_equate :
    (∀ (left right : Ty) (assignment : Assignment),
      left.image assignment = right.image assignment ↔
        ∃ equations, left.equate right = .ok equations ∧ assignment.Solves equations) ∧
    (∀ (pairs : List (Ty × Ty)) (assignment : Assignment),
      assignment.Unifies pairs ↔
        ∃ equations, equateAll pairs = .ok equations ∧ assignment.Solves equations) ∧
    (∀ (left right : Ty) (mismatch : Mismatch), left.equate right = .error mismatch →
      ∀ assignment : Assignment, left.image assignment ≠ right.image assignment) ∧
    ∀ (pairs : List (Ty × Ty)) (mismatch : Mismatch), equateAll pairs = .error mismatch →
      ∀ assignment : Assignment, ¬ assignment.Unifies pairs := by
  refine ⟨?_, ?_, ?_, ?_⟩
  · intro left right assignment
    exact (Assignment.solvesResult_equate left right).symm
  · intro pairs assignment
    exact (Assignment.solvesResult_equateAll pairs).symm
  · intro left right mismatch herror assignment himage
    have hsolves := (Assignment.solvesResult_equate left right).mpr himage
    rw [herror] at hsolves
    exact Assignment.solvesResult_error hsolves
  · intro pairs mismatch herror assignment hunifies
    have hsolves := (Assignment.solvesResult_equateAll pairs).mpr hunifies
    rw [herror] at hsolves
    exact Assignment.solvesResult_error hsolves

/-- The variable is bound to the pair around `Int`, and yet no assignment helps: the mismatch is deeper on
the right. -/
theorem image_eq_iff_solves_equate_of_mismatch :
    (Ty.fn (.var 0) (.pair (.var 0) .int)).equate (.fn .bool (.pair (.var 1) .bool)) =
      .error ⟨.int, .bool⟩ ∧
    ∀ assignment : Assignment, (Ty.fn (.var 0) (.pair (.var 0) .int)).image assignment ≠
      (Ty.fn .bool (.pair (.var 1) .bool)).image assignment :=
  ⟨rfl, image_eq_iff_solves_equate.2.2.1 _ _ ⟨.int, .bool⟩ rfl⟩

/-- An equation between variables defines the smaller one. -/
def Equation.Oriented (equation : Equation) : Prop :=
  ∀ y : Nat, equation.rhs = .var y → equation.var < y

namespace Ty

variable {left right : Ty} {equations : List Equation} {equation : Equation}

/-- Of two variables that meet, the smaller one is defined. -/
theorem oriented_of_mem_equate (hequate : left.equate right = .ok equations)
    (hmem : equation ∈ equations) : equation.Oriented := by
  fun_induction Ty.equate left right generalizing equations with
  | case1 left right left' right' ihl ihr | case2 left right left' right' ihl ihr =>
    obtain ⟨lefts, rights, hlefts, hrights, rfl⟩ := concat_eq_ok_iff.mp hequate
    exact (List.mem_append.mp hmem).elim (ihl hlefts) (ihr hrights)
  | case3 x y =>
    cases hequate
    grind [Equation.Oriented]
  | case4 x type hnotVar | case5 type x hnotVar =>
    cases hequate
    obtain rfl := List.mem_singleton.mp hmem
    intro y hy
    exact absurd hy (hnotVar y)
  | case6 | case7 =>
    cases hequate
    simp at hmem
  | case8 => cases hequate

/-- The equations of two types define variables that occur in them. -/
theorem var_of_mem_equate (hequate : left.equate right = .ok equations) (hmem : equation ∈ equations) :
    ∃ x : Nat, equation.var = x ∧ (x ∈ left.occurrences ∨ x ∈ right.occurrences) := by
  fun_induction Ty.equate left right generalizing equations with
  | case1 left right left' right' ihl ihr | case2 left right left' right' ihl ihr =>
    obtain ⟨lefts, rights, hlefts, hrights, rfl⟩ := concat_eq_ok_iff.mp hequate
    simp only [occurrences, List.mem_append]
    rcases List.mem_append.mp hmem with hmem | hmem
    · obtain ⟨x, hvar, hx⟩ := ihl hlefts hmem
      exact ⟨x, hvar, hx.imp .inl .inl⟩
    · obtain ⟨x, hvar, hx⟩ := ihr hrights hmem
      exact ⟨x, hvar, hx.imp .inr .inr⟩
  | case3 x y =>
    cases hequate
    grind [occurrences]
  | case4 x type hnotVar =>
    cases hequate
    obtain rfl := List.mem_singleton.mp hmem
    exact ⟨x, rfl, .inl List.mem_cons_self⟩
  | case5 type x hnotVar =>
    cases hequate
    obtain rfl := List.mem_singleton.mp hmem
    exact ⟨x, rfl, .inr List.mem_cons_self⟩
  | case6 | case7 =>
    cases hequate
    simp at hmem
  | case8 => cases hequate

end Ty

end TypeEquations
