import TypeEquations.Relation
import TypeEquations.Ty

/-!
# Sort keys

Types are ordered by keys: a number for the constructor, and behind it the keys of the parts, or the id.
-/

namespace TypeEquations

inductive SortKey where
  | number (n : Nat)
  | tuple (items : List SortKey)

namespace SortKey

def kind : SortKey → String
  | number _ => "int"
  | tuple _ => "tuple"

mutual

def same : SortKey → SortKey → Bool
  | number n, number n' => n = n'
  | number _, tuple _ => false
  | tuple _, number _ => false
  | tuple items, tuple items' => sameItems items items'

def sameItems : List SortKey → List SortKey → Bool
  | [], [] => true
  | [], _ :: _ => false
  | _ :: _, [] => false
  | a :: as, b :: bs => a.same b && sameItems as bs

end

mutual

/-- Tuples are related as their first items that differ. No order is defined between a number and a
tuple. -/
def less : SortKey → SortKey → Except Unordered Bool
  | number n, number n' => .ok (n < n')
  | number n, tuple items => .error ⟨.less, (number n).kind, (tuple items).kind⟩
  | tuple items, number n => .error ⟨.less, (tuple items).kind, (number n).kind⟩
  | tuple items, tuple items' => lessItems items items'

def lessItems : List SortKey → List SortKey → Except Unordered Bool
  | [], [] => .ok false
  | [], _ :: _ => .ok true
  | _ :: _, [] => .ok false
  | a :: as, b :: bs => if a.same b then lessItems as bs else a.less b

end

variable (a b : SortKey) (as bs : List SortKey) (m n : Nat)

@[simp]
theorem same_number : (number m).same (number n) = decide (m = n) := by
  rw [same]

@[simp]
theorem same_tuple : (tuple as).same (tuple bs) = sameItems as bs := by
  rw [same]

@[simp]
theorem sameItems_nil : sameItems [] [] = true := by
  rw [sameItems]

@[simp]
theorem sameItems_cons : sameItems (a :: as) (b :: bs) = (a.same b && sameItems as bs) := by
  rw [sameItems]

@[simp]
theorem less_number : (number m).less (number n) = .ok (decide (m < n)) := by
  rw [less]

@[simp]
theorem less_tuple : (tuple as).less (tuple bs) = lessItems as bs := by
  rw [less]

@[simp]
theorem lessItems_nil : lessItems [] [] = .ok false := by
  rw [lessItems]

@[simp]
theorem lessItems_cons :
    lessItems (a :: as) (b :: bs) = if a.same b then lessItems as bs else a.less b := by
  rw [lessItems]

end SortKey

namespace Ty

def sortKey : Ty → SortKey
  | fn left right => .tuple [.number 0, left.sortKey, right.sortKey]
  | pair left right => .tuple [.number 1, left.sortKey, right.sortKey]
  | var id => .tuple [.number 2, .number id]
  | bool => .tuple [.number 3]
  | int => .tuple [.number 4]

/-- The keys say which type is less, and the other relations go by this and by equality. -/
def relate (relation : Relation) (a b : Ty) : Except Unordered Bool := do
  let less ← a.sortKey.less b.sortKey
  return match relation with
    | .less => less
    | .lessEqual => less || a = b
    | .greater => !less && a ≠ b
    | .greaterEqual => !less

end Ty

end TypeEquations
