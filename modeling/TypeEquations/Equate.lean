import TypeEquations.Equation

/-!
# Equating types

Two types are made equal by equations between their parts.
-/

namespace TypeEquations

structure Mismatch where
  left : Ty
  right : Ty
deriving DecidableEq

def Mismatch.message (mismatch : Mismatch) : String :=
  "Cannot unify " ++ mismatch.left.render .plain ++ " with " ++ mismatch.right.render .plain

/-- The equations that make two types equal, or the leftmost innermost mismatch. Of two variables the
smaller one is defined; a variable may be equated with a type in which it occurs. -/
def Ty.equate : Ty → Ty → Except Mismatch (List Equation)
  | fn left right, fn left' right' => do
    let lefts ← left.equate left'
    let rights ← right.equate right'
    return lefts ++ rights
  | pair left right, pair left' right' => do
    let lefts ← left.equate left'
    let rights ← right.equate right'
    return lefts ++ rights
  | var x, var y =>
    .ok (if x < y then [⟨x, var y⟩] else if y < x then [⟨y, var x⟩] else [])
  | var x, type => .ok [⟨x, type⟩]
  | type, var x => .ok [⟨x, type⟩]
  | bool, bool => .ok []
  | int, int => .ok []
  | left, right => .error ⟨left, right⟩

def equateAll : List (Ty × Ty) → Except Mismatch (List Equation)
  | [] => .ok []
  | (left, right) :: rest => do
    let equations ← left.equate right
    let others ← equateAll rest
    return equations ++ others

end TypeEquations
