import Mathlib.Data.Fintype.Card
import Mathlib.Data.Set.Finite.Basic
import Mathlib.Logic.Relation
import TypeEquations.Proofs.Assignment

/-!
# Unfolding

Equations as definitions: a variable stands for the right side of its first equation. A type can be
unfolded until no variable with an equation is left exactly if no variable that it reaches depends on
itself, and then the outcome and the number of replacements are determined.
-/

namespace TypeEquations.Equations

def DependsOn (equations : Equations) (x y : Nat) : Prop :=
  ∃ equation, equations.lookup? x = some equation ∧ y ∈ equation.rhs.occurrences

/-- The variables of a type, those on which they depend, and so on. -/
def Reaches (equations : Equations) (type : Ty) (y : Nat) : Prop :=
  ∃ x ∈ type.occurrences, Relation.ReflTransGen equations.DependsOn x y

def AcyclicFrom (equations : Equations) (type : Ty) : Prop :=
  ∀ x, equations.Reaches type x → ¬ Relation.TransGen equations.DependsOn x x

/-- `Unfolds type result cost` says that `type` becomes `result` when its variables are replaced by the right
sides of their first equations, these unfolded in their turn, and that this takes `cost` replacements. -/
inductive Unfolds (equations : Equations) : Ty → Ty → Nat → Prop where
  | fn {left left' right right' : Ty} {m n : Nat}
      (hleft : Unfolds equations left left' m) (hright : Unfolds equations right right' n) :
      Unfolds equations (.fn left right) (.fn left' right') (m + n)
  | pair {left left' right right' : Ty} {m n : Nat}
      (hleft : Unfolds equations left left' m) (hright : Unfolds equations right right' n) :
      Unfolds equations (.pair left right) (.pair left' right') (m + n)
  | free {x : Nat} (hfree : equations.lookup? x = none) : Unfolds equations (.var x) (.var x) 0
  | defined {x : Nat} {equation : Equation} {result : Ty} {n : Nat}
      (hfound : equations.lookup? x = some equation) (hrhs : Unfolds equations equation.rhs result n) :
      Unfolds equations (.var x) result (n + 1)
  | bool : Unfolds equations .bool .bool 0
  | int : Unfolds equations .int .int 0

variable {equations : Equations} {type result : Ty} {cost : Nat}

namespace Unfolds

/-- A type has at most one unfolding, at one cost. -/
theorem unique {result' : Ty} {cost' : Nat} (h : equations.Unfolds type result cost)
    (h' : equations.Unfolds type result' cost') : result = result' ∧ cost = cost' := by
  induction h generalizing result' cost' with
  | fn _ _ ihl ihr =>
    cases h' with
    | fn hleft' hright' =>
      obtain ⟨rfl, rfl⟩ := ihl hleft'
      obtain ⟨rfl, rfl⟩ := ihr hright'
      exact ⟨rfl, rfl⟩
  | pair _ _ ihl ihr =>
    cases h' with
    | pair hleft' hright' =>
      obtain ⟨rfl, rfl⟩ := ihl hleft'
      obtain ⟨rfl, rfl⟩ := ihr hright'
      exact ⟨rfl, rfl⟩
  | free hfree =>
    cases h' with
    | free => exact ⟨rfl, rfl⟩
    | defined hfound => simp [hfree] at hfound
  | defined hfound _ ih =>
    cases h' with
    | free hfree => simp [hfound] at hfree
    | defined hfound' hrhs' =>
      obtain rfl := Option.some.inj (hfound.symm.trans hfound')
      obtain ⟨rfl, rfl⟩ := ih hrhs'
      exact ⟨rfl, rfl⟩
  | bool =>
    cases h'
    exact ⟨rfl, rfl⟩
  | int =>
    cases h'
    exact ⟨rfl, rfl⟩

/-- A solution does not see that a type was unfolded. -/
theorem image_eq {assignment : Assignment} (hsolves : assignment.Solves equations)
    (h : equations.Unfolds type result cost) : result.image assignment = type.image assignment := by
  induction h with
  | fn _ _ ihl ihr => rw [Ty.image, Ty.image, ihl, ihr]
  | pair _ _ ihl ihr => rw [Ty.image, Ty.image, ihl, ihr]
  | defined hfound _ ih => rw [ih, image_rhs_of_lookup? hsolves hfound, Ty.image]
  | free | bool | int => rfl

theorem exists_of_mem_occurrences {x : Nat} (h : equations.Unfolds type result cost)
    (hx : x ∈ type.occurrences) : ∃ result cost, equations.Unfolds (.var x) result cost := by
  induction h with
  | fn _ _ ihl ihr | pair _ _ ihl ihr => exact (List.mem_append.mp hx).elim ihl ihr
  | free hfree =>
    obtain rfl := List.mem_singleton.mp hx
    exact ⟨_, _, free hfree⟩
  | defined hfound hrhs =>
    obtain rfl := List.mem_singleton.mp hx
    exact ⟨_, _, defined hfound hrhs⟩
  | bool | int => simp [Ty.occurrences] at hx

end Unfolds

theorem unfolds_fn_iff {left right : Ty} :
    equations.Unfolds (.fn left right) result cost ↔
      ∃ left' right' m n, result = .fn left' right' ∧ cost = m + n ∧
        equations.Unfolds left left' m ∧ equations.Unfolds right right' n := by
  constructor
  · rintro (⟨hleft, hright⟩ | _)
    exact ⟨_, _, _, _, rfl, rfl, hleft, hright⟩
  · rintro ⟨_, _, _, _, rfl, rfl, hleft, hright⟩
    exact .fn hleft hright

theorem unfolds_pair_iff {left right : Ty} :
    equations.Unfolds (.pair left right) result cost ↔
      ∃ left' right' m n, result = .pair left' right' ∧ cost = m + n ∧
        equations.Unfolds left left' m ∧ equations.Unfolds right right' n := by
  constructor
  · rintro (_ | ⟨hleft, hright⟩)
    exact ⟨_, _, _, _, rfl, rfl, hleft, hright⟩
  · rintro ⟨_, _, _, _, rfl, rfl, hleft, hright⟩
    exact .pair hleft hright

theorem unfolds_self (hresolved : ∀ x ∈ type.occurrences, equations.lookup? x = none) :
    equations.Unfolds type type 0 := by
  induction type with
  | fn left right ihl ihr =>
    rw [Ty.occurrences, List.forall_mem_append] at hresolved
    exact .fn (ihl hresolved.1) (ihr hresolved.2)
  | pair left right ihl ihr =>
    rw [Ty.occurrences, List.forall_mem_append] at hresolved
    exact .pair (ihl hresolved.1) (ihr hresolved.2)
  | var x => exact .free (hresolved x List.mem_cons_self)
  | bool => exact .bool
  | int => exact .int

theorem exists_unfolds_of_vars
    (hvars : ∀ x ∈ type.occurrences, ∃ result cost, equations.Unfolds (.var x) result cost) :
    ∃ result cost, equations.Unfolds type result cost := by
  induction type with
  | fn left right ihl ihr =>
    rw [Ty.occurrences, List.forall_mem_append] at hvars
    obtain ⟨left', m, hleft⟩ := ihl hvars.1
    obtain ⟨right', n, hright⟩ := ihr hvars.2
    exact ⟨_, _, .fn hleft hright⟩
  | pair left right ihl ihr =>
    rw [Ty.occurrences, List.forall_mem_append] at hvars
    obtain ⟨left', m, hleft⟩ := ihl hvars.1
    obtain ⟨right', n, hright⟩ := ihr hvars.2
    exact ⟨_, _, .pair hleft hright⟩
  | var x => exact hvars x List.mem_cons_self
  | bool => exact ⟨_, _, .bool⟩
  | int => exact ⟨_, _, .int⟩

/-! ### Unfolding and cycles -/

/-- A type that can be unfolded leads into no cycle. -/
theorem Unfolds.acyclicFrom (h : equations.Unfolds type result cost) : equations.AcyclicFrom type := by
  induction h with
  | fn _ _ ihl ihr | pair _ _ ihl ihr =>
    rintro x ⟨y, hy, hreach⟩
    rcases List.mem_append.mp hy with hy | hy
    · exact ihl x ⟨y, hy, hreach⟩
    · exact ihr x ⟨y, hy, hreach⟩
  | free hfree =>
    rintro x ⟨y, hy, hreach⟩ hcycle
    obtain rfl := List.mem_singleton.mp hy
    obtain ⟨z, ⟨equation, hfound, _⟩, _⟩ := Relation.TransGen.head'_iff.mp (hcycle.trans_right hreach)
    simp [hfree] at hfound
  | @defined z equation _ _ hfound _ ih =>
    -- what `z` depends on is reached from the right side of its equation
    have hstep : ∀ y, equations.DependsOn z y → y ∈ equation.rhs.occurrences := by
      rintro y ⟨equation', hfound', hy⟩
      obtain rfl := Option.some.inj (hfound.symm.trans hfound')
      exact hy
    rintro x ⟨y, hy, hreach⟩ hcycle
    obtain rfl := List.mem_singleton.mp hy
    rcases hreach.cases_head with rfl | ⟨w, hw, hreach⟩
    · obtain ⟨w, hw, hback⟩ := Relation.TransGen.head'_iff.mp hcycle
      exact ih w ⟨w, hstep w hw, .refl⟩ (Relation.TransGen.tail' hback hw)
    · exact ih x ⟨w, hstep w hw, hreach⟩ hcycle
  | bool | int =>
    rintro x ⟨y, hy, _⟩
    simp [Ty.occurrences] at hy

/-- Besides the variables of the type only those of right sides are reached. -/
theorem finite_reaches (equations : Equations) (type : Ty) :
    {x | equations.Reaches type x}.Finite := by
  refine Set.Finite.subset
    (List.finite_toSet (type.occurrences ++ equations.flatMap (·.rhs.occurrences))) ?_
  rintro x ⟨y, hy, hreach⟩
  rcases hreach.cases_tail with rfl | ⟨z, _, equation, hfound, hx⟩
  · exact List.mem_append_left _ hy
  · exact List.mem_append_right _
      (List.mem_flatMap.mpr ⟨equation, mem_of_lookup? hfound, hx⟩)

/-- Without cycles no chain of dependences among the finitely many variables reached goes on for ever. -/
theorem wellFounded_of_acyclicFrom (hacyclic : equations.AcyclicFrom type) :
    WellFounded fun y x : {x // equations.Reaches type x} =>
      Relation.TransGen equations.DependsOn x.1 y.1 := by
  have : Finite {x // equations.Reaches type x} := finite_reaches equations type
  have : IsTrans {x // equations.Reaches type x} fun y x =>
      Relation.TransGen equations.DependsOn x.1 y.1 := by
    constructor
    intro x y z hyx hzy
    exact hzy.trans hyx
  have : Std.Irrefl fun y x : {x // equations.Reaches type x} =>
      Relation.TransGen equations.DependsOn x.1 y.1 := by
    constructor
    intro x hcycle
    exact hacyclic x.1 x.2 hcycle
  exact Finite.wellFounded_of_trans_of_irrefl _

/-- **Unfolding comes to an end.** A type that leads into no cycle can be unfolded. -/
theorem exists_unfolds_of_acyclicFrom (hacyclic : equations.AcyclicFrom type) :
    ∃ result cost, equations.Unfolds type result cost := by
  have hvars : ∀ x : {x // equations.Reaches type x},
      ∃ result cost, equations.Unfolds (.var x.1) result cost := by
    intro x
    induction x using (wellFounded_of_acyclicFrom hacyclic).induction with
    | _ x ih =>
      cases hfound : equations.lookup? x.1 with
      | none => exact ⟨_, _, .free hfound⟩
      | some equation =>
        have hrhs : ∀ y ∈ equation.rhs.occurrences,
            ∃ result cost, equations.Unfolds (.var y) result cost := by
          intro y hy
          have hdepends : equations.DependsOn x.1 y := ⟨equation, hfound, hy⟩
          obtain ⟨z, hz, hreach⟩ := x.2
          exact ih ⟨y, z, hz, hreach.tail hdepends⟩ (.single hdepends)
        obtain ⟨result, cost, hunfolds⟩ := exists_unfolds_of_vars hrhs
        exact ⟨_, _, .defined hfound hunfolds⟩
  apply exists_unfolds_of_vars
  intro x hx
  exact hvars ⟨x, x, hx, .refl⟩

end TypeEquations.Equations
