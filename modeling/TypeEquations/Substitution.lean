import TypeEquations.Equations

/-!
# Substitution

One substitution in a type, and what a listener hears of it.
-/

namespace TypeEquations

structure Firing where
  equation : Equation
  replaced : Ty
  replacement : Ty
deriving DecidableEq

structure Attempt where
  type : Ty
  fired : Option Equation
  firings : List Firing
deriving DecidableEq

namespace Ty

/-- Replaces the leftmost variable that has an equation by the right side of its first equation. -/
def substitute (equations : Equations) : Ty → Attempt
  | fn left right =>
    let first := left.substitute equations
    if first.fired.isSome then { first with type := fn first.type right }
    else
      let second := right.substitute equations
      ⟨fn left second.type, second.fired, first.firings ++ second.firings⟩
  | pair left right =>
    let first := left.substitute equations
    if first.fired.isSome then { first with type := pair first.type right }
    else
      let second := right.substitute equations
      ⟨pair left second.type, second.fired, first.firings ++ second.firings⟩
  | var id =>
    match equations.lookup? id with
    | some equation => ⟨equation.rhs, some equation, [⟨equation, var id, equation.rhs⟩]⟩
    | none => ⟨var id, none, []⟩
  | bool => ⟨bool, none, []⟩
  | int => ⟨int, none, []⟩

end Ty

end TypeEquations
