import Mathlib.Order.Lattice
import Mathlib.Order.Std
import TypeEquations.Equation

/-!
# The order of types and equations

Comparing by constructors and parts is a linear order. The keys of types never run into an undefined
comparison, and they give this order; equations follow, first by the variable.
-/

namespace TypeEquations

namespace Ty

variable {a b c : Ty}

theorem compare_eq_eq_iff : a.compare b = .eq ↔ a = b := by
  induction a generalizing b with
  | fn left right ihl ihr => cases b <;> simp [compare, Ordering.then_eq_eq, ihl, ihr]
  | pair left right ihl ihr => cases b <;> simp [compare, Ordering.then_eq_eq, ihl, ihr]
  | var id => cases b <;> simp [compare]
  | bool => cases b <;> simp [compare]
  | int => cases b <;> simp [compare]

theorem swap_compare (a b : Ty) : (a.compare b).swap = b.compare a := by
  induction a generalizing b with
  | fn left right ihl ihr => cases b <;> simp [compare, Ordering.swap_then, ihl, ihr]
  | pair left right ihl ihr => cases b <;> simp [compare, Ordering.swap_then, ihl, ihr]
  | var id =>
    cases b with
    | var id' =>
      simp only [compare]
      exact Std.OrientedOrd.eq_swap.symm
    | _ => simp [compare]
  | bool => cases b <;> simp [compare]
  | int => cases b <;> simp [compare]

variable {left left' left'' right right' right'' : Ty}

/-- Left parts that are equal leave the comparison to the right parts. -/
theorem then_compare_trans
    (hleft : left.compare left' = .lt → left'.compare left'' = .lt → left.compare left'' = .lt)
    (hright : right.compare right' = .lt → right'.compare right'' = .lt → right.compare right'' = .lt)
    (hab : (left.compare left').then (right.compare right') = .lt)
    (hbc : (left'.compare left'').then (right'.compare right'') = .lt) :
    (left.compare left'').then (right.compare right'') = .lt := by
  rw [Ordering.then_eq_lt, compare_eq_eq_iff] at hab hbc ⊢
  rcases hab with hab | ⟨rfl, hab⟩
  · rcases hbc with hbc | ⟨rfl, -⟩
    · exact .inl (hleft hab hbc)
    · exact .inl hab
  · rcases hbc with hbc | ⟨rfl, hbc⟩
    · exact .inl hbc
    · exact .inr ⟨rfl, hright hab hbc⟩

theorem compare_trans (hab : a.compare b = .lt) (hbc : b.compare c = .lt) : a.compare c = .lt := by
  induction a generalizing b c with
  | fn left right ihl ihr =>
    cases b <;> cases c <;> simp only [compare, reduceCtorEq] at hab hbc ⊢
    exact then_compare_trans ihl ihr hab hbc
  | pair left right ihl ihr =>
    cases b <;> cases c <;> simp only [compare, reduceCtorEq] at hab hbc ⊢
    exact then_compare_trans ihl ihr hab hbc
  | var id =>
    cases b <;> cases c <;> simp only [compare, reduceCtorEq] at hab hbc ⊢
    exact Std.TransCmp.lt_trans hab hbc
  | bool => cases b <;> cases c <;> simp only [compare, reduceCtorEq] at hab hbc ⊢
  | int => cases b <;> simp only [compare, reduceCtorEq] at hab

instance : Std.LawfulEqOrd Ty where
  compare_self := compare_eq_eq_iff.mpr rfl
  eq_of_compare := compare_eq_eq_iff.mp

instance : Std.TransOrd Ty where
  eq_swap {a b} := (swap_compare b a).symm
  isLE_trans {a b c} hab hbc := by
    rw [Ordering.isLE_iff_eq_lt_or_eq_eq] at hab hbc ⊢
    rcases hab with hab | hab
    · rcases hbc with hbc | hbc
      · exact .inl (compare_trans hab hbc)
      · cases compare_eq_eq_iff.mp hbc
        exact .inl hab
    · cases compare_eq_eq_iff.mp hab
      exact hbc

instance : LinearOrder Ty := .ofStd Ty

/-! ### Keys -/

theorem same_sortKey (a b : Ty) : a.sortKey.same b.sortKey = decide (a = b) := by
  induction a generalizing b with
  | fn left right ihl ihr => cases b <;> simp [sortKey, ihl, ihr]
  | pair left right ihl ihr => cases b <;> simp [sortKey, ihl, ihr]
  | var id => cases b <;> simp [sortKey]
  | bool => cases b <;> simp [sortKey]
  | int => cases b <;> simp [sortKey]

theorem lessItems_sortKeys
    (hleft : left.sortKey.less left'.sortKey = .ok (left.compare left').isLT)
    (hright : right.sortKey.less right'.sortKey = .ok (right.compare right').isLT) :
    SortKey.lessItems [left.sortKey, right.sortKey] [left'.sortKey, right'.sortKey] =
      .ok ((left.compare left').then (right.compare right')).isLT := by
  simp only [SortKey.lessItems_cons, SortKey.lessItems_nil, same_sortKey, decide_eq_true_eq, hleft, hright]
  by_cases heq : left = left'
  · have hparts : left.compare left' = .eq := compare_eq_eq_iff.mpr heq
    rw [if_pos heq, hparts, Ordering.eq_then]
    split
    · rename_i heq
      rw [compare_eq_eq_iff.mpr heq]
      rfl
    · rfl
  · rw [if_neg heq]
    cases hparts : left.compare left' with
    | lt => rfl
    | eq => exact absurd (compare_eq_eq_iff.mp hparts) heq
    | gt => rfl

/-- The keys of any two types can be compared. -/
theorem less_sortKey (a b : Ty) : a.sortKey.less b.sortKey = .ok (a.compare b).isLT := by
  induction a generalizing b with
  | fn left right ihl ihr =>
    cases b with
    | fn left' right' => simpa [sortKey, compare] using lessItems_sortKeys (ihl left') (ihr right')
    | _ => simp [sortKey, compare]
  | pair left right ihl ihr =>
    cases b with
    | pair left' right' => simpa [sortKey, compare] using lessItems_sortKeys (ihl left') (ihr right')
    | _ => simp [sortKey, compare]
  | var id =>
    cases b with
    | var id' =>
      have hless : (Ord.compare id id').isLT = decide (id < id') := by
        rw [Bool.eq_iff_iff, Ordering.isLT_iff_eq_lt, Nat.compare_eq_lt, decide_eq_true_eq]
      by_cases heq : id = id'
      · simp [sortKey, compare, heq]
      · simp [sortKey, compare, heq, hless]
    | _ => simp [sortKey, compare]
  | bool => cases b <;> simp [sortKey, compare]
  | int => cases b <;> simp [sortKey, compare]

/-- The relations that go by keys are those of the order on types. -/
theorem relate_eq (relation : Relation) (a b : Ty) :
    a.relate relation b = .ok (relation.holds (Ord.compare a b)) := by
  have horder : Ord.compare a b = a.compare b := rfl
  have heq : decide (a = b) = (a.compare b).isEq := by
    rw [Bool.eq_iff_iff]
    simp [compare_eq_eq_iff]
  rw [relate, less_sortKey, horder]
  cases relation <;> simp only [ne_eq, decide_not, heq] <;> cases a.compare b <;> rfl

/-! ### Precedence -/

def place : Ty → Nat
  | fn _ _ => 0
  | pair _ _ => 1
  | var _ => 2
  | bool => 3
  | int => 4

/-- The constructor decides, then the left part before the right part, or the id. -/
inductive Precedes : Ty → Ty → Prop where
  | place {a b : Ty} (hplace : a.place < b.place) : Precedes a b
  | fn_left {left left' right right' : Ty} (hleft : Precedes left left') :
    Precedes (fn left right) (fn left' right')
  | fn_right {left right right' : Ty} (hright : Precedes right right') :
    Precedes (fn left right) (fn left right')
  | pair_left {left left' right right' : Ty} (hleft : Precedes left left') :
    Precedes (pair left right) (pair left' right')
  | pair_right {left right right' : Ty} (hright : Precedes right right') :
    Precedes (pair left right) (pair left right')
  | var {id id' : Nat} (hid : id < id') : Precedes (var id) (var id')

theorem compare_of_precedes (h : a.Precedes b) : a.compare b = .lt := by
  induction h with
  | @place a b hplace => cases a <;> cases b <;> simp [place, compare] at hplace ⊢
  | fn_left _ ih => rw [compare, ih, Ordering.lt_then]
  | fn_right _ ih => rw [compare, compare_eq_eq_iff.mpr rfl, ih, Ordering.eq_then]
  | pair_left _ ih => rw [compare, ih, Ordering.lt_then]
  | pair_right _ ih => rw [compare, compare_eq_eq_iff.mpr rfl, ih, Ordering.eq_then]
  | var hid => exact Nat.compare_eq_lt.mpr hid

theorem precedes_of_compare (h : a.compare b = .lt) : a.Precedes b := by
  induction a generalizing b with
  | fn left right ihl ihr =>
    cases b with
    | fn left' right' =>
      rw [compare, Ordering.then_eq_lt, compare_eq_eq_iff] at h
      rcases h with h | ⟨rfl, h⟩
      · exact .fn_left (ihl h)
      · exact .fn_right (ihr h)
    | _ => exact .place (by simp [place])
  | pair left right ihl ihr =>
    cases b with
    | fn _ _ => cases h
    | pair left' right' =>
      rw [compare, Ordering.then_eq_lt, compare_eq_eq_iff] at h
      rcases h with h | ⟨rfl, h⟩
      · exact .pair_left (ihl h)
      · exact .pair_right (ihr h)
    | _ => exact .place (by simp [place])
  | var id =>
    cases b with
    | fn _ _ => cases h
    | pair _ _ => cases h
    | var id' => exact .var (Nat.compare_eq_lt.mp h)
    | _ => exact .place (by simp [place])
  | bool =>
    cases b with
    | int => exact .place (by simp [place])
    | _ => cases h
  | int => cases b <;> cases h

/-- The order compares constructors, then parts from left to right, or ids. -/
theorem precedes_iff : a.Precedes b ↔ a < b :=
  ⟨compare_of_precedes, precedes_of_compare⟩

end Ty

namespace Equation

theorem compare_eq_eq_iff {a b : Equation} : a.compare b = .eq ↔ a = b := by
  obtain ⟨x, rhs⟩ := a
  obtain ⟨y, rhs'⟩ := b
  simp [compare, Ordering.then_eq_eq]

instance : Std.LawfulEqOrd Equation where
  compare_self := compare_eq_eq_iff.mpr rfl
  eq_of_compare := compare_eq_eq_iff.mp

instance : Std.TransOrd Equation :=
  inferInstanceAs (Std.TransCmp (compareLex (compareOn Equation.var) (compareOn Equation.rhs)))

instance : LinearOrder Equation := .ofStd Equation

theorem relate_eq (relation : Relation) (a b : Equation) :
    a.relate relation b = .ok (relation.holds (Ord.compare a b)) := by
  have horder : Ord.compare a b = (Ord.compare a.var b.var).then (Ord.compare a.rhs b.rhs) := rfl
  rw [relate, horder]
  by_cases hvar : a.var = b.var
  · rw [if_neg (not_not.mpr hvar), Std.LawfulEqOrd.compare_eq_iff_eq.mpr hvar, Ordering.eq_then]
    by_cases hrhs : a.rhs = b.rhs
    · rw [if_neg (not_not.mpr hrhs), Std.LawfulEqOrd.compare_eq_iff_eq.mpr hrhs]
    · rw [if_pos hrhs, Ty.relate_eq]
  · rw [if_pos hvar]
    have hne : Ord.compare a.var b.var ≠ .eq := mt Std.LawfulEqOrd.compare_eq_iff_eq.mp hvar
    cases h : Ord.compare a.var b.var with
    | lt => rfl
    | eq => exact absurd h hne
    | gt => rfl

/-- Equations are in the order of their variables, and for one variable in that of their right sides. -/
theorem lt_iff {a b : Equation} : a < b ↔ a.var < b.var ∨ a.var = b.var ∧ a.rhs < b.rhs := by
  have horder : a < b ↔ (Ord.compare a.var b.var).then (Ord.compare a.rhs b.rhs) = .lt := Iff.rfl
  rw [horder, Ordering.then_eq_lt, Int.compare_eq_lt, Std.LawfulEqOrd.compare_eq_iff_eq]
  rfl

end Equation

end TypeEquations
