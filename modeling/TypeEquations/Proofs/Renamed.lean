import Mathlib.Logic.Function.Basic
import TypeEquations.Proofs.Renaming

/-!
# Renamed equations

A renaming that succeeds maps the variables on both sides of an equation, whatever integers they are. An
equation between two variables stays one, and no other equation becomes one.
-/

namespace TypeEquations

variable {source target : Int}

namespace Ty

theorem rename_var_eq_ok_iff {x : Nat} {result : Ty} :
    (var x).rename source (variableId (.int target)) = .ok result ↔
      ∃ y : Nat, result = var y ∧ (y : Int) = Function.update id source target x := by
  have hsame (n : Nat) : (∃ y : Nat, result = var y ∧ (y : Int) = n) ↔ result = var n := by
    constructor
    · rintro ⟨y, rfl, hy⟩
      rw [Int.ofNat_inj.mp hy]
    · rintro rfl
      exact ⟨n, rfl, rfl⟩
  rw [rename]
  by_cases heq : source = x
  · rw [if_pos heq, ← heq, Function.update_self]
    cases hid : variableId (.int target) with
    | error error =>
      have hnone : ∀ y : Nat, (y : Int) ≠ target := by
        rintro y rfl
        rw [variableId_int_eq_ok_iff.mpr rfl] at hid
        cases hid
      simp [Except.map, hnone]
    | ok y =>
      obtain rfl : target = y := variableId_int_eq_ok_iff.mp hid
      rw [hsame]
      simp [Except.map, eq_comm]
  · rw [if_neg heq, Function.update_of_ne (Ne.symm heq), id, hsame]
    simp [eq_comm]

theorem occurrences_of_rename {type result : Ty}
    (hrename : type.rename source (variableId (.int target)) = .ok result) :
    result.occurrences.map (Nat.cast : Nat → Int) =
      (type.occurrences.map Nat.cast).map (Function.update id source target) := by
  induction type generalizing result with
  | fn left right ihl ihr =>
    obtain ⟨left', right', hleft, hright, rfl⟩ := rename_fn_eq_ok_iff.mp hrename
    simp only [occurrences, List.map_append, ihl hleft, ihr hright]
  | pair left right ihl ihr =>
    obtain ⟨left', right', hleft, hright, rfl⟩ := rename_pair_eq_ok_iff.mp hrename
    simp only [occurrences, List.map_append, ihl hleft, ihr hright]
  | var x =>
    obtain ⟨y, rfl, hy⟩ := rename_var_eq_ok_iff.mp hrename
    simp only [occurrences, List.map_cons, List.map_nil, hy]
  | bool | int =>
    cases hrename
    rfl

end Ty

namespace Equation

variable {equation equation' : Equation}

def occurrences (equation : Equation) : List Int :=
  equation.var :: equation.rhs.occurrences.map Nat.cast

def link? (equation : Equation) : Option (Int × Int) :=
  equation.variables?.map (Prod.map id Nat.cast)

theorem isSome_variables? (equation : Equation) : equation.variables?.isSome = equation.link?.isSome :=
  Option.isSome_map.symm

theorem mem_occurrences_of_link? {x y : Int} (hlink : equation.link? = some (x, y)) :
    x ∈ equation.occurrences ∧ y ∈ equation.occurrences := by
  obtain ⟨var, rhs⟩ := equation
  cases rhs with
  | var z =>
    cases hlink
    simp [occurrences, Ty.occurrences]
  | fn _ _ | pair _ _ | bool | int => cases hlink

theorem rename_eq_ok_iff : equation.rename source target = (equation', .ok ()) ↔
    ∃ rhs, equation.rhs.rename source (variableId (.int target)) = .ok rhs ∧
      equation' = ⟨Function.update id source target equation.var, rhs⟩ := by
  have hvar : (if equation.var = source then target else equation.var) =
      Function.update id source target equation.var := by
    rw [Function.update_apply, id]
  rw [rename, hvar]
  cases equation.rhs.rename source (variableId (.int target)) <;> simp [eq_comm]

theorem occurrences_of_rename (hrename : equation.rename source target = (equation', .ok ())) :
    equation'.occurrences = equation.occurrences.map (Function.update id source target) := by
  obtain ⟨rhs, hrhs, rfl⟩ := rename_eq_ok_iff.mp hrename
  rw [occurrences, occurrences, List.map_cons, Ty.occurrences_of_rename hrhs]

theorem mem_occurrences_of_rename (hrename : equation.rename source target = (equation', .ok ())) {x : Int} :
    x ∈ equation'.occurrences ↔
      x = target ∧ source ∈ equation.occurrences ∨ x ≠ source ∧ x ∈ equation.occurrences := by
  rw [occurrences_of_rename hrename, List.mem_map]
  constructor
  · rintro ⟨y, hy, rfl⟩
    by_cases heq : y = source
    · rw [heq, Function.update_self]
      exact .inl ⟨rfl, heq ▸ hy⟩
    · rw [Function.update_of_ne heq]
      exact .inr ⟨heq, hy⟩
  · rintro (⟨rfl, hsource⟩ | ⟨hne, hx⟩)
    · exact ⟨source, hsource, Function.update_self ..⟩
    · exact ⟨x, hx, Function.update_of_ne hne ..⟩

/-- An equation between variables is still one after a renaming. -/
theorem link?_of_rename (hrename : equation.rename source target = (equation', .ok ())) :
    equation'.link? = equation.link?.map
      (Prod.map (Function.update id source target) (Function.update id source target)) := by
  obtain ⟨rhs', hrhs, rfl⟩ := rename_eq_ok_iff.mp hrename
  obtain ⟨var, rhs⟩ := equation
  cases rhs with
  | fn left right =>
    obtain ⟨left', right', _, _, rfl⟩ := Ty.rename_fn_eq_ok_iff.mp hrhs
    rfl
  | pair left right =>
    obtain ⟨left', right', _, _, rfl⟩ := Ty.rename_pair_eq_ok_iff.mp hrhs
    rfl
  | var y =>
    obtain ⟨y', rfl, hy'⟩ := Ty.rename_var_eq_ok_iff.mp hrhs
    simp [link?, variables?, hy']
  | bool | int =>
    cases hrhs
    rfl

/-- A variable that does not occur is renamed without effect, be it to what is no id. -/
theorem rename_of_not_mem (habsent : source ∉ equation.occurrences) :
    equation.rename source target = (equation, .ok ()) := by
  rw [occurrences, List.mem_cons, not_or] at habsent
  obtain ⟨hvar, hrhs⟩ := habsent
  refine rename_eq_ok_iff.mpr ⟨equation.rhs, ?_, ?_⟩
  · apply Ty.rename_of_not_mem
    rintro x hx rfl
    exact hrhs (List.mem_map_of_mem hx)
  · rw [Function.update_of_ne (Ne.symm hvar), id]

end Equation

namespace Registry

variable {registry registry' : Registry} {equation : Equation} {ids : List EquationId}

/-- Each listed entry is looked at once, so it does not matter what became of the others. -/
theorem renameAll_eq_ok_iff (hnodup : ids.Nodup) :
    (registry.renameAll source target ids).2 = .ok () ↔
      ∀ id ∈ ids, ∀ equation, registry.get? id = some equation →
        (equation.rename source target).2 = .ok () := by
  induction ids generalizing registry with
  | nil => simp [renameAll]
  | cons id rest ih =>
    rw [List.nodup_cons] at hnodup
    obtain ⟨hid, hrest⟩ := hnodup
    have hhead : (registry.rename source target id).2 = .ok () ↔
        ∀ equation, registry.get? id = some equation → (equation.rename source target).2 = .ok () := by
      cases hget : registry.get? id with
      | none => simp [rename_of_get?_eq_none hget]
      | some equation => simp [rename_of_get? hget]
    have htail : ∀ other ∈ rest,
        (registry.rename source target id).1.get? other = registry.get? other := by
      intro other hother
      apply get?_rename_of_ne
      rintro rfl
      exact hid hother
    rw [List.forall_mem_cons, ← hhead, renameAll]
    rcases hrename : registry.rename source target id with ⟨renamed, outcome⟩
    rw [hrename] at htail
    cases outcome with
    | error error => simp
    | ok =>
      simp only [true_and]
      rw [ih hrest]
      refine forall₂_congr fun other hother => ?_
      rw [htail other hother]

/-- The listed entries are renamed, and no others. -/
theorem get?_renameAll (hnodup : ids.Nodup)
    (hok : (registry.renameAll source target ids).2 = .ok ()) (other : EquationId) :
    (registry.renameAll source target ids).1.get? other =
      if other ∈ ids then (registry.get? other).map fun equation => (equation.rename source target).1
      else registry.get? other := by
  induction ids generalizing registry with
  | nil => simp [renameAll]
  | cons id rest ih =>
    rw [List.nodup_cons] at hnodup
    obtain ⟨hid, hrest⟩ := hnodup
    have hself : (registry.rename source target id).1.get? id =
        (registry.get? id).map fun equation => (equation.rename source target).1 := by
      cases hget : registry.get? id with
      | none => rw [rename_of_get?_eq_none hget, hget, Option.map_none]
      | some equation => rw [rename_of_get? hget, get?_set_self hget, Option.map_some]
    have hkept (hne : other ≠ id) := get?_rename_of_ne hne registry source target
    rw [renameAll] at hok ⊢
    rcases hrename : registry.rename source target id with ⟨renamed, outcome⟩
    rw [hrename] at hself hkept hok
    cases outcome with
    | error error => cases hok
    | ok =>
      simp only at hok ⊢
      rw [ih hrest hok]
      by_cases heq : other = id
      · subst heq
        rw [if_neg hid, if_pos List.mem_cons_self, hself]
      · simp only [List.mem_cons, heq, false_or, hkept heq]

/-- Where the variable occurs in none of the listed entries, nothing at all is changed. -/
theorem renameAll_of_not_mem
    (habsent : ∀ id ∈ ids, ∀ equation, registry.get? id = some equation → source ∉ equation.occurrences) :
    registry.renameAll source target ids = (registry, .ok ()) := by
  induction ids with
  | nil => rfl
  | cons id rest ih =>
    obtain ⟨hid, hrest⟩ := List.forall_mem_cons.mp habsent
    have hrename : registry.rename source target id = (registry, .ok ()) := by
      cases hget : registry.get? id with
      | none => exact rename_of_get?_eq_none hget ..
      | some equation =>
        rw [rename_of_get? hget, Equation.rename_of_not_mem (hid equation hget), set_of_get? hget]
    rw [renameAll, hrename]
    exact ih hrest

theorem mergedVariables?_eq_some_iff_link? :
    mergedVariables? equation = some (source, target) ↔
      ∃ x y, equation.link? = some (x, y) ∧ x ≠ y ∧ max x y = source ∧ min x y = target := by
  obtain ⟨var, rhs⟩ := equation
  rw [mergedVariables?_eq_some_iff]
  cases rhs with
  | var y =>
    constructor
    · rintro ⟨_, ⟨⟩, hne, hmax, hmin⟩
      exact ⟨var, y, rfl, hne, hmax, hmin⟩
    · rintro ⟨_, _, ⟨⟩, hne, hmax, hmin⟩
      exact ⟨y, rfl, hne, hmax, hmin⟩
  | fn _ _ | pair _ _ | bool | int => simp [Equation.link?, Equation.variables?]

end Registry

end TypeEquations
