import TypeEquations.Ty.Text

/-!
# Drafts

Trees in which values that are no types may stand where types should. What can be done with types is
done with drafts up to the first such value.
-/

namespace TypeEquations

/-- A tree of the shape of a type, in which values of any kind may stand for types. -/
inductive Draft where
  | fn (left right : Draft)
  | pair (left right : Draft)
  | var (id : Nat)
  | bool
  | int
  | foreign (value : Json)

namespace Draft

def ofTy : Ty → Draft
  | .fn left right => fn (ofTy left) (ofTy right)
  | .pair left right => pair (ofTy left) (ofTy right)
  | .var id => var id
  | .bool => bool
  | .int => int

structure NotAType where
  found : Json

def NotAType.message (error : NotAType) : String :=
  "Unknown type: " ++ error.found.inspect

structure Lacking where
  kind : String
  ability : String
deriving DecidableEq

def Lacking.message (error : Lacking) : String :=
  "'" ++ error.kind ++ "' object has no attribute '" ++ error.ability ++ "'"

def toTy : Draft → Except NotAType Ty
  | fn left right => do
    let left ← left.toTy
    let right ← right.toTy
    return .fn left right
  | pair left right => do
    let left ← left.toTy
    let right ← right.toTy
    return .pair left right
  | var id => .ok (.var id)
  | bool => .ok .bool
  | int => .ok .int
  | foreign value => .error ⟨value⟩

def needsParentheses : Draft → Bool
  | fn _ _ => true
  | _ => false

def part (draft : Draft) (text : String) : Except Lacking String :=
  match draft with
  -- of another value it is not known whether it needs parentheses
  | foreign value => .error ⟨value.kind, "needs_wrapping"⟩
  | _ => .ok (Ty.parenthesize draft.needsParentheses text)

def render : Draft → Except Lacking String
  | fn left right => do
    let leftText ← left.part (← left.render)
    let rightText ← right.render
    return leftText ++ " " ++ Style.plain.arrow ++ " " ++ rightText
  | pair left right => do
    let leftText ← left.part (← left.render)
    let rightText ← right.part (← right.render)
    return "(" ++ leftText ++ ", " ++ rightText ++ ")"
  | var id => .ok (Style.plain.variable id)
  | bool => .ok "Bool"
  | int => .ok "Int"
  | foreign value => .ok value.display

structure Equation where
  var : Nat
  rhs : Draft

def Equation.render (equation : Equation) : Except Lacking String := do
  return Style.plain.variable equation.var ++ " = " ++ (← equation.rhs.render)

structure Mismatch where
  left : Draft
  right : Draft

def Mismatch.message (mismatch : Mismatch) : Except Lacking String := do
  return "Cannot unify " ++ (← mismatch.left.render) ++ " with " ++ (← mismatch.right.render)

/-- As for types; a value of another kind can be equated with a variable only. -/
def equate : Draft → Draft → Except Mismatch (List Equation)
  | fn left right, fn left' right' => do
    let lefts ← left.equate left'
    let rights ← right.equate right'
    return lefts ++ rights
  | pair left right, pair left' right' => do
    let lefts ← left.equate left'
    let rights ← right.equate right'
    return lefts ++ rights
  | var x, var y =>
    .ok (if x < y then [⟨x, var y⟩] else if y < x then [⟨y, var x⟩] else [])
  | var x, draft => .ok [⟨x, draft⟩]
  | draft, var x => .ok [⟨x, draft⟩]
  | bool, bool => .ok []
  | int, int => .ok []
  | left, right => .error ⟨left, right⟩

end Draft

end TypeEquations
