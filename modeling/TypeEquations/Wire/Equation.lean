import TypeEquations.Equation
import TypeEquations.Wire.Ty

/-!
# Equations in JSON
-/

namespace TypeEquations

namespace Wire

structure EquationForm where
  var : Int
  rhs : Form
deriving DecidableEq

namespace EquationForm

def ofParts? : Json → Json → Option EquationForm
  | .int var, rhs => if 0 ≤ var then (Form.ofJson? rhs).map fun rhs => ⟨var, rhs⟩ else none
  | _, _ => none

def ofJson? : Json → Option EquationForm
  | .obj [(key, value), (key', value')] =>
    if key = "var" ∧ key' = "rhs" then ofParts? value value'
    else if key = "rhs" ∧ key' = "var" then ofParts? value' value
    else none
  | _ => none

def toEquation (form : EquationForm) : Except Misfit Equation :=
  form.rhs.toTy.map fun rhs => ⟨form.var, rhs⟩

end EquationForm

end Wire

namespace Equation

def toJson (equation : Equation) : Json :=
  .obj [("var", .int equation.var), ("rhs", equation.rhs.toJson)]

def ofJson? (json : Json) : Option Equation :=
  (Wire.EquationForm.ofJson? json).bind fun form => form.toEquation.toOption

end Equation

def equationsToJson (equations : List Equation) : Json :=
  .arr (equations.map (·.toJson))

def equationsOfJson? : Json → Option (List Equation)
  | .arr items => items.mapM Equation.ofJson?
  | _ => none

end TypeEquations
