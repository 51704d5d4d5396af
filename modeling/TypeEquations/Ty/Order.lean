import TypeEquations.Ty

/-!
# The order of types
-/

namespace TypeEquations.Ty

/-- Functions before pairs, variables, `bool` and `int`; within a kind by the left part, the right part
or the id. -/
def compare : Ty → Ty → Ordering
  | fn left right, fn left' right' => (left.compare left').then (right.compare right')
  | fn _ _, _ => .lt
  | _, fn _ _ => .gt
  | pair left right, pair left' right' => (left.compare left').then (right.compare right')
  | pair _ _, _ => .lt
  | _, pair _ _ => .gt
  | var id, var id' => Ord.compare id id'
  | var _, _ => .lt
  | _, var _ => .gt
  | bool, bool => .eq
  | bool, int => .lt
  | int, bool => .gt
  | int, int => .eq

instance : Ord Ty := ⟨compare⟩
instance : LT Ty := ltOfOrd
instance : LE Ty := leOfOrd

end TypeEquations.Ty
