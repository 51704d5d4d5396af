import TypeEquations.Proofs.Equating
import TypeEquations.Proofs.Normalizing

/-!
# Constraints

An elimination whose equations come from pairs of types that were to be equal. They are solved by the
unifiers of the pairs that were accepted, and where there is one, no variable depends on itself: along a
dependence the assigned type gets smaller, but for equations between variables, which ascend.
-/

namespace TypeEquations

/-! ### Oriented equations with a solution have no cycles -/

theorem Ty.sizeOf_le_sizeOf_image (assignment : Assignment) {type : Ty} {x : Nat}
    (hx : x ∈ type.occurrences) : sizeOf (assignment x) ≤ sizeOf (type.image assignment) := by
  induction type with
  | fn left right ihl ihr | pair left right ihl ihr =>
    simp only [image, fn.sizeOf_spec, pair.sizeOf_spec]
    rcases List.mem_append.mp hx with hx | hx
    · have hle := ihl hx
      omega
    · have hle := ihr hx
      omega
  | var y =>
    obtain rfl := List.mem_singleton.mp hx
    exact Nat.le_refl _
  | bool | int => simp [occurrences] at hx

/-- What is assigned to a variable inside a larger type is smaller than the image of that type. -/
theorem Ty.sizeOf_lt_sizeOf_image (assignment : Assignment) {type : Ty} {x : Nat}
    (hx : x ∈ type.occurrences) (hnotVar : ∀ y, type ≠ .var y) :
    sizeOf (assignment x) < sizeOf (type.image assignment) := by
  cases type with
  | fn left right | pair left right =>
    simp only [image, fn.sizeOf_spec, pair.sizeOf_spec]
    rcases List.mem_append.mp hx with hx | hx
    · have hle := sizeOf_le_sizeOf_image assignment hx
      omega
    · have hle := sizeOf_le_sizeOf_image assignment hx
      omega
  | var y => exact absurd rfl (hnotVar y)
  | bool | int => simp [occurrences] at hx

namespace Equations

variable {equations : Equations} {assignment : Assignment}

/-- Along a dependence the assigned type gets smaller, or it stays and the variable gets greater. -/
def Descends (assignment : Assignment) (x y : Nat) : Prop :=
  sizeOf (assignment y) < sizeOf (assignment x) ∨ assignment y = assignment x ∧ x < y

/-- A dependence goes to a smaller type, or it is that of an equation between variables. -/
theorem DependsOn.smaller_or_link {x y : Nat} (hsolves : assignment.Solves equations)
    (h : equations.DependsOn x y) : sizeOf (assignment y) < sizeOf (assignment x) ∨
      assignment y = assignment x ∧ equations.lookup? x = some ⟨x, .var y⟩ := by
  obtain ⟨equation, hfound, hy⟩ := h
  have himage := image_rhs_of_lookup? hsolves hfound
  by_cases hvar : ∃ z, equation.rhs = .var z
  · obtain ⟨z, hz⟩ := hvar
    rw [hz] at hy himage
    obtain rfl := List.mem_singleton.mp hy
    have hequation : equation = ⟨x, .var y⟩ := by rw [← hz, ← var_of_lookup? hfound]
    exact .inr ⟨himage, hequation ▸ hfound⟩
  · have hlt := Ty.sizeOf_lt_sizeOf_image assignment hy (not_exists.mp hvar)
    exact .inl (himage ▸ hlt)

theorem DependsOn.descends {x y : Nat} (hsolves : assignment.Solves equations)
    (horiented : ∀ equation ∈ equations, equation.Oriented) (h : equations.DependsOn x y) :
    Descends assignment x y := by
  rcases h.smaller_or_link hsolves with hlt | ⟨himage, hfound⟩
  · exact .inl hlt
  · have hlt := horiented _ (mem_of_lookup? hfound) y rfl
    exact .inr ⟨himage, Int.ofNat_lt.mp hlt⟩

theorem Descends.trans {x y z : Nat} (hxy : Descends assignment x y) (hyz : Descends assignment y z) :
    Descends assignment x z := by
  unfold Descends at *
  grind

theorem descends_of_transGen {x y : Nat} (hsolves : assignment.Solves equations)
    (horiented : ∀ equation ∈ equations, equation.Oriented)
    (h : Relation.TransGen equations.DependsOn x y) : Descends assignment x y := by
  induction h with
  | single hstep => exact hstep.descends hsolves horiented
  | tail _ hstep ih => exact ih.trans (hstep.descends hsolves horiented)

/-- **No cycles in what can be solved.** Oriented equations with a solution lead from no type into a cycle. -/
theorem acyclicFrom_of_solves (hsolves : assignment.Solves equations)
    (horiented : ∀ equation ∈ equations, equation.Oriented) (type : Ty) :
    equations.AcyclicFrom type := by
  intro x _ hcycle
  rcases descends_of_transGen hsolves horiented hcycle with hlt | ⟨_, hlt⟩
  · exact Nat.lt_irrefl _ hlt
  · exact Nat.lt_irrefl _ hlt

/-! ### What constraints leave -/

/-- The equations say that the types of each pair are equal, in the form that equating gives them. -/
structure Describes (equations : Equations) (pairs : List (Ty × Ty)) : Prop where
  solves_iff : ∀ assignment : Assignment, assignment.Solves equations ↔ assignment.Unifies pairs
  oriented : ∀ equation ∈ equations, equation.Oriented
  var_mem : ∀ equation ∈ equations, ∃ types ∈ pairs, ∃ x : Nat, equation.var = x ∧
    (x ∈ types.1.occurrences ∨ x ∈ types.2.occurrences)

theorem describes_nil : Describes [] [] where
  solves_iff _ := by simp
  oriented := by simp
  var_mem := by simp

/-- Equating two types describes their equality. -/
theorem describes_equate {left right : Ty} (hequate : left.equate right = .ok equations) :
    Describes equations [(left, right)] where
  solves_iff assignment := by
    have hiff : assignment.SolvesResult (left.equate right) ↔ _ :=
      Assignment.solvesResult_equate left right
    simpa [hequate] using hiff
  oriented _ hmem := Ty.oriented_of_mem_equate hequate hmem
  var_mem _ hmem := ⟨_, List.mem_singleton_self _, Ty.var_of_mem_equate hequate hmem⟩

theorem Describes.append {equations' : Equations} {pairs pairs' : List (Ty × Ty)}
    (h : equations.Describes pairs) (h' : equations'.Describes pairs') :
    Describes (equations ++ equations') (pairs ++ pairs') where
  solves_iff assignment := by
    rw [Assignment.solves_append, h.solves_iff, h'.solves_iff]
    simp [Assignment.Unifies, or_imp, forall_and]
  oriented := List.forall_mem_append.mpr ⟨h.oriented, h'.oriented⟩
  var_mem equation hmem := by
    rcases List.mem_append.mp hmem with hmem | hmem
    · obtain ⟨types, htypes, hvar⟩ := h.var_mem equation hmem
      exact ⟨types, List.mem_append_left _ htypes, hvar⟩
    · obtain ⟨types, htypes, hvar⟩ := h'.var_mem equation hmem
      exact ⟨types, List.mem_append_right _ htypes, hvar⟩

end Equations

namespace Elimination

def constrainAll (state : Elimination) : List (Ty × Ty) → Elimination × List (Ty × Ty)
  | [] => (state, [])
  | (left, right) :: rest =>
    match state.constrain left right with
    | (state, .ok _) =>
      let (state, accepted) := state.constrainAll rest
      (state, (left, right) :: accepted)
    | (state, .error _) => state.constrainAll rest

variable {state : Elimination} {pairs : List (Ty × Ty)}

theorem constrain_of_ok {left right : Ty} {equations : List Equation}
    (hequate : left.equate right = .ok equations) :
    state.constrain left right = ((state.append equations).1, .ok (state.append equations).2) := by
  rw [constrain, hequate]

theorem constrain_of_error {left right : Ty} {mismatch : Mismatch}
    (hequate : left.equate right = .error mismatch) :
    state.constrain left right = (state, .error (.mismatch mismatch)) := by
  rw [constrain, hequate]

/-- The equations after some constraints describe the pairs accepted before them and on the way. -/
theorem describes_constrainAll {earlier : List (Ty × Ty)} (h : state.equations.Describes earlier)
    (pairs : List (Ty × Ty)) :
    (state.constrainAll pairs).1.equations.Describes (earlier ++ (state.constrainAll pairs).2) := by
  induction pairs generalizing state earlier with
  | nil => simpa [constrainAll] using h
  | cons types rest ih =>
    obtain ⟨left, right⟩ := types
    cases hequate : left.equate right with
    | error mismatch =>
      rw [constrainAll, constrain_of_error hequate]
      exact ih h
    | ok equations =>
      have hstep : (state.append equations).1.equations.Describes (earlier ++ [(left, right)]) := by
        rw [equations_append]
        exact h.append (Equations.describes_equate hequate)
      rw [constrainAll, constrain_of_ok hequate]
      simpa using ih hstep

theorem Quiet.constrainAll (hquiet : state.Quiet) (pairs : List (Ty × Ty)) :
    (state.constrainAll pairs).1.Quiet := by
  induction pairs generalizing state with
  | nil => exact hquiet
  | cons types rest ih =>
    obtain ⟨left, right⟩ := types
    cases hequate : left.equate right with
    | error mismatch =>
      rw [Elimination.constrainAll, constrain_of_error hequate]
      exact ih hquiet
    | ok equations =>
      have hstep : (state.append equations).1.Quiet := hquiet
      rw [Elimination.constrainAll, constrain_of_ok hequate]
      exact ih hstep

end Elimination

end TypeEquations
