import TypeEquations.Style
import TypeEquations.Ty

/-!
# Types as text
-/

namespace TypeEquations

namespace Ty

def needsParentheses : Ty → Bool
  | fn _ _ => true
  | _ => false

def parenthesize (needed : Bool) (text : String) : String :=
  if needed then "(" ++ text ++ ")" else text

def render (style : Style) : Ty → String
  | fn left right =>
    parenthesize left.needsParentheses (left.render style) ++ " " ++ style.arrow ++ " " ++
      right.render style
  | pair left right =>
    "(" ++ parenthesize left.needsParentheses (left.render style) ++ ", " ++
      parenthesize right.needsParentheses (right.render style) ++ ")"
  | var id => style.variable id
  | bool => "Bool"
  | int => "Int"

def kind : Ty → String
  | fn _ _ => "Function"
  | pair _ _ => "Tuple"
  | var _ => "Var"
  | bool => "Bool"
  | int => "Int"

def inspect : Ty → String
  | fn left right => "Function(left=" ++ left.inspect ++ ", right=" ++ right.inspect ++ ")"
  | pair left right => "Tuple(left=" ++ left.inspect ++ ", right=" ++ right.inspect ++ ")"
  | var id => "Var(id=" ++ toString id ++ ")"
  | bool => "Bool()"
  | int => "Int()"

end Ty

end TypeEquations
