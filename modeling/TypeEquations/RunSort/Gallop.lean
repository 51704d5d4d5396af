/-!
# Searching by strides

How many values at the start of a list pass a test that may fail, if those that pass stand before all
others. Few tests are made where few values pass, and about twice the logarithm of their number otherwise.
-/

namespace TypeEquations.RunSort

variable {α ε : Type} (before : α → Except ε Bool)

/-- The end of the values that pass, found by halving the range of `width` places from `low` on. Of the
two middles of an even width the later one is tested, or the earlier one if the list runs backward. -/
def bisect (backward : Bool) (values : List α) (low width : Nat) : Except ε Nat :=
  if width = 0 then .ok low
  else
    let half := if backward then (width - 1) / 2 else width / 2
    match values[low + half]? with
    | none => .ok low
    | some value =>
      match before value with
      | .error error => .error error
      | .ok true => bisect backward values (low + half + 1) (width - half - 1)
      | .ok false => bisect backward values low half
termination_by width
decreasing_by
  · omega
  · split <;> omega

/-- Two places between which the values that pass end: `last` passes, and each stride to the `next` place
is about twice as long as the one before. -/
def stride (values : List α) : Nat → Nat → Nat → Except ε (Nat × Nat)
  | 0, last, _ => .ok (last, values.length)
  | fuel + 1, last, next =>
    match values[next]? with
    | none => .ok (last, values.length)
    | some value => do
      if ← before value then stride values fuel next (2 * next + 1) else return (last, next)

def gallop (backward : Bool) (values : List α) : Except ε Nat := do
  match values with
  | [] => return 0
  | first :: _ =>
    if ← before first then
      let (last, next) ← stride before values values.length 0 1
      bisect before backward values (last + 1) (next - last - 1)
    else return 0

end TypeEquations.RunSort
