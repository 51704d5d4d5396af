import TypeEquations.Registry
import TypeEquations.Proofs.Assignment

/-!
# Renaming

An assignment that gives two variables the same type does not see that one is renamed to the other, not even
where the renaming stops halfway. So merging keeps the solutions: the equation that calls for a renaming is
itself left alone, and what solves it gives its two variables the same type.
-/

namespace TypeEquations

variable {assignment : Assignment} {source target : Int}

theorem variableId_int_eq_ok_iff {n : Int} {id : Nat} : variableId (.int n) = .ok id ↔ n = id := by
  cases n with
  | ofNat m => simp only [variableId, Int.ofNat_eq_natCast, Except.ok.injEq, Int.ofNat_inj]
  | negSucc m => simp [variableId]

namespace Ty

variable {id : Except InvalidId Nat} {left right result : Ty}

theorem rename_fn_eq_ok_iff :
    (fn left right).rename source id = .ok result ↔
      ∃ left' right', left.rename source id = .ok left' ∧ right.rename source id = .ok right' ∧
        fn left' right' = result := by
  rw [rename]
  cases left.rename source id <;> cases right.rename source id <;>
    simp [bind, Except.bind, pure, Except.pure]

theorem rename_pair_eq_ok_iff :
    (pair left right).rename source id = .ok result ↔
      ∃ left' right', left.rename source id = .ok left' ∧ right.rename source id = .ok right' ∧
        pair left' right' = result := by
  rw [rename]
  cases left.rename source id <;> cases right.rename source id <;>
    simp [bind, Except.bind, pure, Except.pure]

/-- Between variables of one image a renaming cannot be told from the image. -/
theorem image_rename {type : Ty} (hequal : ∀ y, id = .ok y → assignment source = assignment y)
    (hrename : type.rename source id = .ok result) : result.image assignment = type.image assignment := by
  induction type generalizing result with
  | fn left right ihl ihr =>
    obtain ⟨left', right', hleft, hright, rfl⟩ := rename_fn_eq_ok_iff.mp hrename
    rw [image, image, ihl hleft, ihr hright]
  | pair left right ihl ihr =>
    obtain ⟨left', right', hleft, hright, rfl⟩ := rename_pair_eq_ok_iff.mp hrename
    rw [image, image, ihl hleft, ihr hright]
  | var x =>
    rw [rename] at hrename
    split at hrename
    · rename_i heq
      cases id with
      | error error => cases hrename
      | ok y =>
        cases hrename
        rw [image, image, ← heq]
        exact (hequal y rfl).symm
    · cases hrename
      rfl
  | bool | int =>
    cases hrename
    rfl

end Ty

namespace Equation

/-- Also where only the variable was renamed before the right side failed. -/
theorem holds_rename (hequal : assignment source = assignment target) (equation : Equation) :
    (equation.rename source target).1.Holds assignment ↔ equation.Holds assignment := by
  have hvar : assignment (if equation.var = source then target else equation.var) =
      assignment equation.var := by
    split
    · rename_i heq
      rw [heq, hequal]
    · rfl
  rw [rename]
  split
  · rename_i rhs hrename
    have himage : rhs.image assignment = equation.rhs.image assignment := by
      refine Ty.image_rename ?_ hrename
      intro y hy
      rw [hequal, variableId_int_eq_ok_iff.mp hy]
    rw [Holds, Holds, hvar, himage]
  · rw [Holds, Holds, hvar]

end Equation

namespace Registry

variable {registry : Registry} {ids : List EquationId} {id other : EquationId} {equation : Equation}

def HoldsAt (registry : Registry) (assignment : Assignment) (id : EquationId) : Prop :=
  ∀ equation, registry.get? id = some equation → equation.Holds assignment

theorem holdsAt_iff_of_get? (hget : registry.get? id = some equation) :
    registry.HoldsAt assignment id ↔ equation.Holds assignment := by
  simp [HoldsAt, hget]

theorem holdsAt_congr {registry' : Registry} (hget : registry'.get? id = registry.get? id) :
    registry'.HoldsAt assignment id ↔ registry.HoldsAt assignment id := by
  rw [HoldsAt, HoldsAt, hget]

theorem solves_select : assignment.Solves (registry.select ids) ↔ ∀ id ∈ ids, registry.HoldsAt assignment id := by
  simp only [Assignment.Solves, mem_select, HoldsAt]
  constructor
  · intro hsolves id hid equation hget
    exact hsolves equation ⟨id, hid, hget⟩
  · rintro hholds equation ⟨id, hid, hget⟩
    exact hholds id hid equation hget

theorem holdsAt_set {equation' : Equation} (hget : registry.get? id = some equation)
    (hsame : equation'.Holds assignment ↔ equation.Holds assignment) (other : EquationId) :
    (registry.set id equation').HoldsAt assignment other ↔ registry.HoldsAt assignment other := by
  by_cases heq : other = id
  · subst heq
    rw [holdsAt_iff_of_get? (get?_set_self hget equation'), holdsAt_iff_of_get? hget, hsame]
  · exact holdsAt_congr (get?_set_of_ne heq registry equation')

/-- A change that leaves one of the equations alone is to be justified only where that equation holds; elsewhere
there is no solution before and none afterwards. -/
theorem solves_select_of_kept {registry' : Registry} (hid : id ∈ ids)
    (hget : registry.get? id = some equation) (hkept : registry'.get? id = registry.get? id)
    (hsame : equation.Holds assignment →
      ∀ other, registry'.HoldsAt assignment other ↔ registry.HoldsAt assignment other) :
    assignment.Solves (registry'.select ids) ↔ assignment.Solves (registry.select ids) := by
  rw [solves_select, solves_select]
  by_cases hholds : equation.Holds assignment
  · simp only [hsame hholds]
  · have hbefore : ¬ registry.HoldsAt assignment id := by
      rwa [holdsAt_iff_of_get? hget]
    constructor
    · intro hsolves
      -- the equation that was left alone fails as it did before
      exact absurd ((holdsAt_congr hkept).mp (hsolves id hid)) hbefore
    · intro hsolves
      exact absurd (hsolves id hid) hbefore

theorem holdsAt_rename (hequal : assignment source = assignment target) (registry : Registry)
    (id other : EquationId) :
    (registry.rename source target id).1.HoldsAt assignment other ↔ registry.HoldsAt assignment other := by
  rw [rename]
  split
  · rfl
  · rename_i equation hget
    exact holdsAt_set hget (equation.holds_rename hequal) other

theorem holdsAt_renameAll (hequal : assignment source = assignment target) (registry : Registry)
    (ids : List EquationId) (other : EquationId) :
    (registry.renameAll source target ids).1.HoldsAt assignment other ↔
      registry.HoldsAt assignment other := by
  induction ids generalizing registry with
  | nil => rfl
  | cons id rest ih =>
    have hrename := holdsAt_rename hequal registry id other
    rw [renameAll]
    split <;> rename_i hresult <;> rw [hresult] at hrename
    · rw [ih, hrename]
    · exact hrename

theorem mergedVariables?_eq_some_iff :
    mergedVariables? equation = some (source, target) ↔
      ∃ y : Nat, equation.rhs = .var y ∧ equation.var ≠ y ∧ max equation.var y = source ∧
        min equation.var y = target := by
  obtain ⟨x, rhs⟩ := equation
  cases rhs with
  | var y =>
    by_cases heq : x = y <;> simp [mergedVariables?, Equation.variables?, heq]
  | fn _ _ | pair _ _ | bool | int => simp [mergedVariables?, Equation.variables?]

/-- The variables of an equation that holds have one image. -/
theorem eq_of_mergedVariables? (hmerged : mergedVariables? equation = some (source, target))
    (hholds : equation.Holds assignment) : assignment source = assignment target := by
  obtain ⟨y, hrhs, _, rfl, rfl⟩ := mergedVariables?_eq_some_iff.mp hmerged
  rw [Equation.Holds, hrhs, Ty.image] at hholds
  rcases Int.le_total equation.var y with hle | hle
  · rw [Int.max_eq_right hle, Int.min_eq_left hle, hholds]
  · rw [Int.max_eq_left hle, Int.min_eq_right hle, hholds]

/-- The equation that calls for a renaming is not renamed. -/
theorem solves_renameAll_of_merged (assignment : Assignment) (hid : id ∈ ids)
    (hget : registry.get? id = some equation) (hmerged : mergedVariables? equation = some (source, target)) :
    assignment.Solves ((registry.renameAll source target (ids.filter (· ≠ id))).1.select ids) ↔
      assignment.Solves (registry.select ids) := by
  have hothers : id ∉ ids.filter (· ≠ id) := by simp
  refine solves_select_of_kept hid hget (get?_renameAll_of_not_mem hothers ..) ?_
  intro hholds other
  exact holdsAt_renameAll (eq_of_mergedVariables? hmerged hholds) ..

/-- Merging keeps the solutions, also when it stops before its end. -/
theorem solves_merge (assignment : Assignment) (registry : Registry) (ids : List EquationId) :
    assignment.Solves ((registry.merge ids).1.select ids) ↔ assignment.Solves (registry.select ids) := by
  refine mergeFrom_preserves
    (p := fun renamed => assignment.Solves (renamed.select ids) ↔ assignment.Solves (registry.select ids)) ?_ Iff.rfl
  intro renamed id hid source target hcalled hsame
  obtain ⟨equation, hget, hmerged⟩ := Option.bind_eq_some_iff.mp hcalled
  rw [solves_renameAll_of_merged assignment hid hget hmerged, hsame]

end Registry

end TypeEquations
