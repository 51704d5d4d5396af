import Mathlib.Data.List.Perm.Basic
import Mathlib.Data.List.Sort
import TypeEquations.Draft.Order
import TypeEquations.Equations
import TypeEquations.Proofs.Ordering
import TypeEquations.Proofs.RunSorting

/-!
# Sorted types and equations

The four relations of types, and those of equations, are the relations of one total order. So a list has one
sorted form, which depends on its members alone, and the sorted form of distinct values ascends strictly.
-/

namespace TypeEquations

namespace Relation

variable {α : Type} [LinearOrder α] (a b : α)

theorem holds_less : less.holds (compare a b) = decide (a < b) := by
  rw [Bool.eq_iff_iff, holds, Ordering.isLT_iff_eq_lt, compare_lt_iff_lt, decide_eq_true_eq]

theorem holds_lessEqual : lessEqual.holds (compare a b) = decide (a ≤ b) := by
  rw [Bool.eq_iff_iff, holds, Ordering.isLE_iff_ne_gt, ← ne_eq, compare_le_iff_le, decide_eq_true_eq]

theorem holds_greater : greater.holds (compare a b) = decide (b < a) := by
  rw [Bool.eq_iff_iff, holds, Ordering.isGT_iff_eq_gt, compare_gt_iff_gt, decide_eq_true_eq]

theorem holds_greaterEqual : greaterEqual.holds (compare a b) = decide (b ≤ a) := by
  rw [Bool.eq_iff_iff, holds, Ordering.isGE_iff_ne_lt, ← ne_eq, compare_ge_iff_ge, decide_eq_true_eq]

end Relation

/-- The four relations are defined everywhere, and those of one total order. -/
structure TotallyOrdered {α ε : Type} (relate : Relation → α → α → Except ε Bool) : Prop where
  defined : ∀ relation a b, ∃ holds, relate relation a b = .ok holds
  trichotomous : ∀ a b,
    (relate .less a b = .ok true ∧ a ≠ b ∧ relate .less b a = .ok false) ∨
    (relate .less a b = .ok false ∧ a = b ∧ relate .less b a = .ok false) ∨
    (relate .less a b = .ok false ∧ a ≠ b ∧ relate .less b a = .ok true)
  trans : ∀ a b c, relate .less a b = .ok true → relate .less b c = .ok true → relate .less a c = .ok true
  lessEqual_iff : ∀ a b, relate .lessEqual a b = .ok true ↔ relate .less a b = .ok true ∨ a = b
  greater_eq : ∀ a b, relate .greater a b = relate .less b a
  greaterEqual_eq : ∀ a b, relate .greaterEqual a b = relate .lessEqual b a

/-- Each list has a sorted form, and the order of its values does not matter for it. -/
structure SortsBy {α ε : Type} (relate : Relation → α → α → Except ε Bool) (sorts : List α → List α → Prop) :
    Prop where
  ascending : ∀ values, ∃ sorted, sorts values sorted ∧ sorted.Perm values ∧
    sorted.Pairwise fun a b => relate .lessEqual a b = .ok true
  of_perm : ∀ values values' sorted, values.Perm values' → sorts values sorted → sorts values' sorted
  strictly : ∀ values distinct : List α, distinct.Nodup → (∀ a, a ∈ distinct ↔ a ∈ values) →
    ∃ sorted, sorts distinct sorted ∧ (∀ a, a ∈ sorted ↔ a ∈ values) ∧
      sorted.Pairwise fun a b => relate .less a b = .ok true

section TotalOrder

variable {α ε : Type} [LinearOrder α] {relate : Relation → α → α → Except ε Bool}

/-- Relations that are read off a comparison are those of one total order. -/
theorem totallyOrdered_of_compare (hrelate : ∀ relation a b, relate relation a b = .ok (relation.holds (compare a b))) :
    TotallyOrdered relate where
  defined relation a b := ⟨_, hrelate relation a b⟩
  trichotomous a b := by
    simp only [hrelate, Relation.holds_less, Except.ok.injEq, decide_eq_true_eq, decide_eq_false_iff_not]
    rcases lt_trichotomy a b with hlt | heq | hgt
    · exact .inl ⟨hlt, ne_of_lt hlt, not_lt_of_gt hlt⟩
    · exact .inr (.inl ⟨not_lt_of_ge heq.ge, heq, not_lt_of_ge heq.le⟩)
    · exact .inr (.inr ⟨not_lt_of_gt hgt, ne_of_gt hgt, hgt⟩)
  trans a b c := by
    simp only [hrelate, Relation.holds_less, Except.ok.injEq, decide_eq_true_eq]
    exact lt_trans
  lessEqual_iff a b := by
    simp only [hrelate, Relation.holds_less, Relation.holds_lessEqual, Except.ok.injEq, decide_eq_true_eq]
    exact le_iff_lt_or_eq
  greater_eq a b := by
    rw [hrelate, hrelate, Relation.holds_greater, Relation.holds_less]
  greaterEqual_eq a b := by
    rw [hrelate, hrelate, Relation.holds_greaterEqual, Relation.holds_lessEqual]

theorem sortsBy_of_compare {sorts : List α → List α → Prop}
    (hrelate : ∀ relation a b, relate relation a b = .ok (relation.holds (compare a b)))
    (hunique : ∀ values sorted sorted', sorts values sorted → sorts values sorted' → sorted = sorted')
    (hsorts : ∀ values, ∃ sorted, sorts values sorted ∧ sorted.Perm values ∧ sorted.Pairwise (· ≤ ·)) :
    SortsBy relate sorts where
  ascending values := by
    obtain ⟨sorted, hsorted, hperm, hle⟩ := hsorts values
    refine ⟨sorted, hsorted, hperm, hle.imp ?_⟩
    intro a b hab
    rw [hrelate, Relation.holds_lessEqual, decide_eq_true hab]
  of_perm values values' sorted hperm hsorted := by
    obtain ⟨first, hfirst, hpermFirst, hleFirst⟩ := hsorts values
    obtain ⟨second, hsecond, hpermSecond, hleSecond⟩ := hsorts values'
    have heq : first = second :=
      ((hpermFirst.trans hperm).trans hpermSecond.symm).eq_of_pairwise' hleFirst hleSecond
    rwa [hunique values sorted first hsorted hfirst, heq]
  strictly values distinct hnodup hmem := by
    obtain ⟨sorted, hsorted, hperm, hle⟩ := hsorts distinct
    refine ⟨sorted, hsorted, fun a => hperm.mem_iff.trans (hmem a), ?_⟩
    have hne : sorted.Pairwise (· ≠ ·) := hperm.nodup_iff.mpr hnodup
    refine (hle.and hne).imp ?_
    rintro a b ⟨hab, hne⟩
    rw [hrelate, Relation.holds_less, decide_eq_true (lt_of_le_of_ne hab hne)]

theorem decides_of_compare (hrelate : ∀ relation a b, relate relation a b = .ok (relation.holds (compare a b))) :
    RunSort.Decides (fun _ => True) id (relate .less) := by
  intro a b _ _
  rw [hrelate, Relation.holds_less]
  rfl

end TotalOrder

/-! ### Lists of types -/

namespace Draft

theorem toTy_ofTy (type : Ty) : (ofTy type).toTy = .ok type := by
  induction type with
  | fn left right ihl ihr =>
    rw [ofTy, toTy, ihl, ihr]
    rfl
  | pair left right ihl ihr =>
    rw [ofTy, toTy, ihl, ihr]
    rfl
  | var id => rfl
  | bool => rfl
  | int => rfl

/-- Drafts that are types are related as these. -/
theorem relate_ofTy (relation : Relation) (a b : Ty) :
    (ofTy a).relate relation (ofTy b) = (a.relate relation b).mapError .unordered := by
  have hranked (type : Ty) : (ofTy type).ranked = .ok type := by
    rw [ranked, toTy_ofTy]
    rfl
  have hrelate : (ofTy a).relate relation (ofTy b) = (do
      let a ← (ofTy a).ranked
      let b ← (ofTy b).ranked
      (a.relate relation b).mapError .unordered) := by
    cases a <;> cases b <;> rfl
  rw [hrelate, hranked, hranked]
  rfl

def rank (draft : Draft) : Ty :=
  match draft.toTy with
  | .ok type => type
  | .error _ => default

theorem rank_ofTy (type : Ty) : (ofTy type).rank = type := by
  rw [rank, toTy_ofTy]

theorem ofTy_injective : Function.Injective ofTy :=
  Function.LeftInverse.injective rank_ofTy

theorem decides_relate : RunSort.Decides (fun draft => ∃ type, draft = ofTy type) rank (relate .less) := by
  rintro _ _ ⟨a, rfl⟩ ⟨b, rfl⟩
  rw [relate_ofTy, Ty.relate_eq, rank_ofTy, rank_ofTy, Relation.holds_less]
  rfl

/-- A list of types is sorted without an error. -/
theorem exists_sort_ofTy (types : List Ty) :
    ∃ sorted : List Ty, sort (types.map ofTy) = .ok (sorted.map ofTy) ∧ sorted.Perm types ∧
      sorted.Pairwise (· ≤ ·) := by
  have hall : ∀ draft ∈ types.map ofTy, ∃ type, draft = ofTy type := by
    simp
  obtain ⟨sorted, hsort, ⟨hsorted, hle⟩, hperm⟩ := yields_runSort decides_relate hall
  obtain ⟨ranked, rfl⟩ : ∃ ranked : List Ty, ranked.map ofTy = sorted := by
    refine ⟨sorted.map rank, ?_⟩
    rw [List.map_map]
    refine (List.map_congr_left ?_).trans (List.map_id sorted)
    intro draft hdraft
    obtain ⟨type, rfl⟩ := hsorted draft hdraft
    exact congrArg ofTy (rank_ofTy type)
  refine ⟨ranked, hsort, (List.map_perm_map_iff ofTy_injective).mp hperm, ?_⟩
  simpa [List.pairwise_map, rank_ofTy] using hle

theorem same_ofTy (a b : Ty) : (ofTy a).same (ofTy b) = decide (a = b) := by
  induction a generalizing b with
  | fn left right ihl ihr => cases b <;> simp [ofTy, same, ihl, ihr]
  | pair left right ihl ihr => cases b <;> simp [ofTy, same, ihl, ihr]
  | var id => cases b <;> simp [ofTy, same]
  | bool => cases b <;> simp [ofTy, same]
  | int => cases b <;> simp [ofTy, same]

theorem mutablePart?_ofTy (type : Ty) : (ofTy type).mutablePart? = none := by
  induction type with
  | fn left right ihl ihr => simp [ofTy, mutablePart?, ihl, ihr]
  | pair left right ihl ihr => simp [ofTy, mutablePart?, ihl, ihr]
  | var id => rfl
  | bool => rfl
  | int => rfl

def keep (kept : List Ty) (type : Ty) : List Ty :=
  if type ∈ kept then kept else kept ++ [type]

theorem mem_keep {kept : List Ty} {type other : Ty} : other ∈ keep kept type ↔ other ∈ kept ∨ other = type := by
  rw [keep]
  split
  · rename_i hmem
    exact ⟨.inl, fun h => h.elim id fun heq => heq ▸ hmem⟩
  · rw [List.mem_append, List.mem_singleton]

theorem nodup_keep {kept : List Ty} (hkept : kept.Nodup) (type : Ty) : (keep kept type).Nodup := by
  rw [keep]
  split
  · exact hkept
  · rename_i hmem
    rw [List.nodup_append]
    refine ⟨hkept, List.nodup_singleton type, ?_⟩
    rintro a ha b hb rfl
    exact hmem (List.mem_singleton.mp hb ▸ ha)

theorem keep_ofTy (kept : List Ty) (type : Ty) :
    (if (kept.map ofTy).any (ofTy type).same then kept.map ofTy else kept.map ofTy ++ [ofTy type]) =
      (keep kept type).map ofTy := by
  have hany : (kept.map ofTy).any (ofTy type).same = decide (type ∈ kept) := by
    rw [Bool.eq_iff_iff]
    simp [same_ofTy]
  rw [hany, keep]
  by_cases hmem : type ∈ kept <;> simp [hmem]

theorem exists_foldl_keep (types : List Ty) {kept : List Ty} (hkept : kept.Nodup) :
    ∃ distinct : List Ty,
      (types.map ofTy).foldl (fun kept draft => if kept.any draft.same then kept else kept ++ [draft])
        (kept.map ofTy) = distinct.map ofTy ∧ distinct.Nodup ∧
        ∀ type, type ∈ distinct ↔ type ∈ kept ∨ type ∈ types := by
  induction types generalizing kept with
  | nil => exact ⟨kept, rfl, hkept, by simp⟩
  | cons type types ih =>
    rw [List.map_cons, List.foldl_cons, keep_ofTy]
    obtain ⟨distinct, hfold, hnodup, hiff⟩ := ih (nodup_keep hkept type)
    refine ⟨distinct, hfold, hnodup, fun other => ?_⟩
    rw [hiff, mem_keep, List.mem_cons, or_assoc]

/-- The types kept are distinct, and all types are among them. -/
theorem exists_distinct_ofTy (types : List Ty) :
    ∃ distinct : List Ty, Draft.distinct (types.map ofTy) = .ok (distinct.map ofTy) ∧ distinct.Nodup ∧
      ∀ type, type ∈ distinct ↔ type ∈ types := by
  have hmutable : (types.map ofTy).findSome? mutablePart? = none := by
    simp [mutablePart?_ofTy]
  obtain ⟨distinct, hdistinct, hnodup, hiff⟩ := exists_foldl_keep types List.nodup_nil
  refine ⟨distinct, ?_, hnodup, by simpa using hiff⟩
  rw [Draft.distinct, hmutable]
  exact congrArg Except.ok hdistinct

end Draft

/-! ### Lists of equations -/

/-- Sorting by runs agrees with the merge sort by which equations are sorted. -/
theorem Equations.exists_runSort (equations : Equations) :
    runSort (Equation.relate .less) equations = .ok equations.sort ∧ equations.sort.Perm equations ∧
      equations.sort.Pairwise (· ≤ ·) := by
  have htrans (a b c : Equation) (hab : (compare a b).isLE = true) (hbc : (compare b c).isLE = true) :
      (compare a c).isLE = true := Std.TransCmp.isLE_trans hab hbc
  have htotal (a b : Equation) : ((compare a b).isLE || (compare b a).isLE) = true :=
    (Bool.or_eq_true ..).mpr (le_total a b)
  have hsorted : equations.sort.Pairwise (· ≤ ·) := List.pairwise_mergeSort htrans htotal equations
  have hperm : equations.sort.Perm equations := List.mergeSort_perm ..
  obtain ⟨sorted, hsort, ⟨-, hle⟩, hpermSorted⟩ :=
    yields_runSort (decides_of_compare Equation.relate_eq) (fun a (_ : a ∈ equations) => trivial)
  have hle : sorted.Pairwise (· ≤ ·) := hle
  have heq : sorted = equations.sort := (hpermSorted.trans hperm.symm).eq_of_pairwise' hle hsorted
  exact ⟨heq ▸ hsort, hperm, hsorted⟩

/-- Types and equations are totally ordered by their parts, and the sorted form of a list is the same for all
orders of its values. -/
theorem totally_ordered_and_sorted :
    (∀ a b : Ty, ∃ less, a.sortKey.less b.sortKey = .ok less) ∧
    TotallyOrdered Ty.relate ∧
    (∀ a b : Ty, Ty.relate .less a b = .ok true ↔ a.Precedes b) ∧
    (∀ relation a b,
      (Draft.ofTy a).relate relation (Draft.ofTy b) = (Ty.relate relation a b).mapError .unordered) ∧
    TotallyOrdered Equation.relate ∧
    (∀ a b : Equation,
      Equation.relate .less a b = .ok true ↔ a.var < b.var ∨ a.var = b.var ∧ a.rhs.Precedes b.rhs) ∧
    SortsBy Ty.relate (fun types sorted => Draft.sort (types.map .ofTy) = .ok (sorted.map .ofTy)) ∧
    (∀ types : List Ty, ∃ distinct : List Ty,
      Draft.distinct (types.map .ofTy) = .ok (distinct.map .ofTy) ∧ distinct.Nodup ∧
        ∀ type, type ∈ distinct ↔ type ∈ types) ∧
    SortsBy Equation.relate fun equations sorted =>
      runSort (Equation.relate .less) equations = .ok sorted ∧ Equations.sort equations = sorted := by
  refine ⟨?_, totallyOrdered_of_compare Ty.relate_eq, ?_, Draft.relate_ofTy,
    totallyOrdered_of_compare Equation.relate_eq, ?_, ?_, Draft.exists_distinct_ofTy, ?_⟩
  · intro a b
    exact ⟨_, Ty.less_sortKey a b⟩
  · intro a b
    rw [Ty.relate_eq, Relation.holds_less, Except.ok.injEq, decide_eq_true_eq, Ty.precedes_iff]
  · intro a b
    rw [Equation.relate_eq, Relation.holds_less, Except.ok.injEq, decide_eq_true_eq, Equation.lt_iff, Ty.precedes_iff]
  · refine sortsBy_of_compare Ty.relate_eq ?_ Draft.exists_sort_ofTy
    intro types sorted sorted' hsorted hsorted'
    rw [hsorted, Except.ok.injEq] at hsorted'
    exact Draft.ofTy_injective.list_map hsorted'
  · refine sortsBy_of_compare Equation.relate_eq ?_ ?_
    · rintro equations sorted sorted' ⟨-, hsorted⟩ ⟨-, hsorted'⟩
      exact hsorted.symm.trans hsorted'
    · intro equations
      obtain ⟨hsort, hperm, hle⟩ := Equations.exists_runSort equations
      exact ⟨Equations.sort equations, ⟨hsort, rfl⟩, hperm, hle⟩

end TypeEquations
