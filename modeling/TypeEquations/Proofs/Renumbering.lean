import Mathlib.Order.Monotone.Basic
import TypeEquations.Proofs.Equating
import TypeEquations.Proofs.Lockstep
import TypeEquations.Proofs.Renaming

/-!
# Renumbering

A map of ids that keeps their order can be applied before or after types are renamed, equated, substituted in
or normalized: the outcome is the same.
-/

namespace TypeEquations

/-- The map of the ids of types on all integers. A negative number is never the id of a type and stays. -/
def renumberId (f : Nat → Nat) (id : Int) : Int :=
  if 0 ≤ id then f id.toNat else id

variable {f : Nat → Nat}

@[simp]
theorem renumberId_natCast (f : Nat → Nat) (id : Nat) : renumberId f id = f id :=
  if_pos (Int.natCast_nonneg id)

theorem renumberId_lt (hf : StrictMono f) {x y : Int} (hlt : x < y) : renumberId f x < renumberId f y := by
  by_cases hx : 0 ≤ x
  · have hless : f x.toNat < f y.toNat := hf (by omega)
    rw [renumberId, renumberId, if_pos hx, if_pos (Int.le_of_lt (Int.lt_of_le_of_lt hx hlt))]
    exact Int.ofNat_lt.mpr hless
  · rw [renumberId, renumberId, if_neg hx]
    split
    · exact Int.lt_of_lt_of_le (Int.not_le.mp hx) (Int.natCast_nonneg _)
    · exact hlt

theorem renumberId_le (hf : StrictMono f) {x y : Int} (hle : x ≤ y) : renumberId f x ≤ renumberId f y := by
  rcases Int.lt_or_eq_of_le hle with hlt | rfl
  · exact Int.le_of_lt (renumberId_lt hf hlt)
  · exact Int.le_refl _

theorem renumberId_inj (hf : StrictMono f) {x y : Int} : renumberId f x = renumberId f y ↔ x = y := by
  constructor
  · intro heq
    rcases Int.lt_trichotomy x y with hlt | rfl | hgt
    · exact absurd heq (Int.ne_of_lt (renumberId_lt hf hlt))
    · rfl
    · exact absurd heq.symm (Int.ne_of_lt (renumberId_lt hf hgt))
  · rintro rfl
    rfl

@[simp]
theorem renumberId_id : renumberId id = id := by
  funext x
  unfold renumberId
  split
  · exact Int.toNat_of_nonneg ‹_›
  · rfl

namespace Ty

def renumber (f : Nat → Nat) : Ty → Ty
  | fn left right => fn (left.renumber f) (right.renumber f)
  | pair left right => pair (left.renumber f) (right.renumber f)
  | var id => var (f id)
  | bool => bool
  | int => int

@[simp]
theorem renumber_id (type : Ty) : type.renumber id = type := by
  induction type with
  | fn left right ihl ihr | pair left right ihl ihr => rw [renumber, ihl, ihr]
  | var x | bool | int => rfl

/-- An id that is looked at only where it is needed, mapped where it is one. -/
theorem rename_renumber (hf : StrictMono f) (source : Int) (target : Except InvalidId Nat) (type : Ty) :
    (type.renumber f).rename (renumberId f source) (target.map f) =
      (type.rename source target).map (renumber f) := by
  induction type with
  | fn left right ihl ihr | pair left right ihl ihr =>
    rw [renumber, rename, rename, ihl, ihr]
    cases left.rename source target <;> cases right.rename source target <;> rfl
  | var id =>
    have hiff : renumberId f source = f id ↔ source = id := renumberId_inj hf (y := id)
    rw [renumber, rename, rename]
    by_cases heq : source = id
    · rw [if_pos (hiff.mpr heq), if_pos heq]
      cases target <;> rfl
    · rw [if_neg (mt hiff.mp heq), if_neg heq]
      rfl
  | bool | int => rfl

end Ty

namespace Equation

def renumber (f : Nat → Nat) (equation : Equation) : Equation :=
  ⟨renumberId f equation.var, equation.rhs.renumber f⟩

@[simp]
theorem renumber_id (equation : Equation) : equation.renumber id = equation := by
  rw [renumber, renumberId_id, Ty.renumber_id, id]

theorem variables?_renumber (f : Nat → Nat) (equation : Equation) :
    (equation.renumber f).variables? =
      equation.variables?.map (Prod.map (renumberId f) f) := by
  obtain ⟨var, rhs⟩ := equation
  cases rhs <;> rfl

theorem rename_renumber (hf : StrictMono f) (source target : Int) (equation : Equation) :
    (equation.renumber f).rename (renumberId f source) (renumberId f target) =
      ((equation.rename source target).1.renumber f, (equation.rename source target).2) := by
  have htarget : variableId (.int (renumberId f target)) = (variableId (.int target)).map f := by
    cases target <;> rfl
  have hvar : (if renumberId f equation.var = renumberId f source then renumberId f target
      else renumberId f equation.var) =
      renumberId f (if equation.var = source then target else equation.var) := by
    simp only [renumberId_inj hf, apply_ite (renumberId f)]
  have hrhs := Ty.rename_renumber hf source (variableId (.int target)) equation.rhs
  rw [rename, rename, renumber, htarget, hrhs, hvar]
  cases equation.rhs.rename source (variableId (.int target)) <;> rfl

end Equation

def Mismatch.renumber (f : Nat → Nat) (mismatch : Mismatch) : Mismatch :=
  ⟨mismatch.left.renumber f, mismatch.right.renumber f⟩

def Firing.renumber (f : Nat → Nat) (firing : Firing) : Firing :=
  ⟨firing.equation.renumber f, firing.replaced.renumber f, firing.replacement.renumber f⟩

def Attempt.renumber (f : Nat → Nat) (attempt : Attempt) : Attempt :=
  ⟨attempt.type.renumber f, attempt.fired.map (·.renumber f), attempt.firings.map (·.renumber f)⟩

def Step.renumber (f : Nat → Nat) (step : Step) : Step :=
  ⟨step.equation.renumber f, step.before.renumber f, step.after.renumber f⟩

def renumberResult (f : Nat → Nat) : Except Mismatch (List Equation) → Except Mismatch (List Equation)
  | .ok equations => .ok (equations.map (·.renumber f))
  | .error mismatch => .error (mismatch.renumber f)

/-! ### Equating and substituting -/

theorem renumberResult_concat (first second : Except Mismatch (List Equation)) :
    renumberResult f (do
      let lefts ← first
      let rights ← second
      return lefts ++ rights) = (do
      let lefts ← renumberResult f first
      let rights ← renumberResult f second
      return lefts ++ rights) := by
  cases first with
  | error mismatch => rfl
  | ok lefts =>
    cases second with
    | error mismatch => rfl
    | ok rights => exact congrArg Except.ok List.map_append

/-- Of two variables the smaller one is defined before and after. -/
theorem Ty.equate_renumber (hf : StrictMono f) (left right : Ty) :
    (left.renumber f).equate (right.renumber f) = renumberResult f (left.equate right) := by
  fun_induction Ty.equate left right with
  | case1 left right left' right' ihl ihr | case2 left right left' right' ihl ihr =>
    rw [renumberResult_concat, renumber, renumber, equate, ihl, ihr]
  | case3 x y =>
    simp only [renumber, equate, hf.lt_iff_lt]
    split
    · rfl
    · split <;> rfl
  | case4 x type hnotVar =>
    cases type with
    | var y => exact absurd rfl (hnotVar y)
    | fn _ _ | pair _ _ | bool | int => rfl
  | case5 type x hnotVar =>
    cases type with
    | var y => exact absurd rfl (hnotVar y)
    | fn _ _ | pair _ _ | bool | int => rfl
  | case6 | case7 => rfl
  | case8 left right hfn hpair hvars hleft hright hbool hint =>
    cases left <;> cases right <;> grind [renumber, equate, renumberResult, Mismatch.renumber]

namespace Equations

/-- The first equation of a variable stays the first. -/
theorem lookup?_renumber (hf : StrictMono f) (equations : Equations) (x : Int) :
    lookup? (equations.map (·.renumber f)) (renumberId f x) =
      (equations.lookup? x).map (·.renumber f) := by
  have hsame : ((fun equation : Equation => decide (equation.var = renumberId f x)) ∘ (·.renumber f)) =
      fun equation : Equation => decide (equation.var = x) := by
    funext equation
    exact decide_eq_decide.mpr (renumberId_inj hf)
  rw [lookup?, List.find?_map, hsame]
  rfl

end Equations

/-- Substitution finds the same place and puts in the renumbered type. -/
theorem Ty.substitute_renumber (hf : StrictMono f) (equations : Equations) (type : Ty) :
    (type.renumber f).substitute (equations.map (·.renumber f)) =
      (type.substitute equations).renumber f := by
  induction type with
  | fn left right ihl ihr | pair left right ihl ihr =>
    rw [renumber, substitute, substitute, ihl, ihr]
    have hfired : ((left.substitute equations).renumber f).fired.isSome =
        (left.substitute equations).fired.isSome := Option.isSome_map
    simp only [hfired]
    split
    · rfl
    · simp [Attempt.renumber, renumber]
  | var x =>
    have hlookup := Equations.lookup?_renumber hf equations x
    rw [renumberId_natCast] at hlookup
    rw [renumber, substitute, substitute, hlookup]
    cases equations.lookup? x <;> rfl
  | bool | int => rfl

theorem Step.next?_renumber (hf : StrictMono f) (equations : Equations) (type : Ty) :
    Step.next? (equations.map (·.renumber f)) (type.renumber f) =
      (Step.next? equations type).map (·.renumber f) := by
  rw [Step.next?, Step.next?, Ty.substitute_renumber hf]
  cases hfired : (type.substitute equations).fired <;>
    simp [Attempt.renumber, Step.renumber, hfired]

namespace Elimination

variable {state state' : Elimination}

/-- The listeners are told of images and say the same. -/
theorem inStep_renumber (hf : StrictMono f)
    (hequations : state'.equations = state.equations.map (·.renumber f))
    (hobjections : ∀ steps : List Step,
      state'.objection? (steps.map (·.renumber f)) = state.objection? steps) :
    state.InStep state' (·.renumber f) (·.renumber f) fun _ => True where
  next?_eq type _ := by
    rw [hequations]
    exact Step.next?_renumber hf state.equations type
  follows_after _ _ _ _ := trivial
  after_eq _ := rfl
  objection?_eq := hobjections

/-- **Normalizing under other numbers.** Steps and outcome are renumbered, and nothing else about them changes. -/
theorem normalize_renumber (hf : StrictMono f)
    (hequations : state'.equations = state.equations.map (·.renumber f))
    (hobjections : ∀ steps : List Step,
      state'.objection? (steps.map (·.renumber f)) = state.objection? steps)
    (hlimit : state'.limit = state.limit) (type : Ty) :
    (∃ steps, (state.normalize type).1.Extends state steps ∧
      (state'.normalize (type.renumber f)).1.Extends state' (steps.map (·.renumber f))) ∧
    (state'.normalize (type.renumber f)).2 = mapOutcome (·.renumber f) (state.normalize type).2 := by
  have hinStep := inStep_renumber hf hequations hobjections
  have hfollows : (fun _ : Ty => True) type := trivial
  obtain ⟨steps, hstate, hstate', houtcome⟩ :=
    hinStep.exists_replay_normalizeWithin hlimit hfollows state.limit.toNat
  rw [normalize, normalize, hlimit, hstate, hstate']
  exact ⟨⟨steps, extends_replay .., extends_replay ..⟩, houtcome⟩

end Elimination

end TypeEquations
