/-!
# Ascending lists

Sets of numbers are kept as strictly ascending lists.
-/

namespace TypeEquations

variable {α : Type} [LT α] [DecidableLT α] [DecidableEq α]

def insertAscending (a : α) : List α → List α
  | [] => [a]
  | b :: rest =>
    if a < b then a :: b :: rest
    else if a = b then b :: rest
    else b :: insertAscending a rest

def ascending (values : List α) : List α :=
  values.foldr insertAscending []

theorem mem_insertAscending {a x : α} {values : List α} :
    x ∈ insertAscending a values ↔ x = a ∨ x ∈ values := by
  induction values with
  | nil => simp [insertAscending]
  | cons b rest ih =>
    by_cases hlt : a < b
    · simp [insertAscending, hlt]
    · by_cases heq : a = b
      · subst heq
        simp [insertAscending, hlt]
      · simp only [insertAscending, hlt, heq, if_false, List.mem_cons, ih]
        exact or_left_comm

@[simp]
theorem mem_ascending {x : α} {values : List α} : x ∈ ascending values ↔ x ∈ values := by
  induction values with
  | nil => simp [ascending]
  | cons a rest ih =>
    simp only [ascending, List.foldr_cons, mem_insertAscending, List.mem_cons] at ih ⊢
    rw [ih]

end TypeEquations
