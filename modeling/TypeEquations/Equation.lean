import TypeEquations.Ty.Order
import TypeEquations.Ty.SortKey
import TypeEquations.Ty.Text

/-!
# Equations

An equation defines a variable by a type. It can be shown, ordered, and renamed on both sides.
-/

namespace TypeEquations

/-- The equation of a variable and a type. The variable may be any integer; only ids from zero on occur
in types. -/
structure Equation where
  var : Int
  rhs : Ty
deriving DecidableEq, Inhabited

namespace Equation

def render (style : Style) (equation : Equation) : String :=
  style.variable equation.var ++ " = " ++ equation.rhs.render style

def inspect (equation : Equation) : String :=
  "RuleExpr(var=" ++ toString equation.var ++ ", rhs=" ++ equation.rhs.inspect ++ ")"

def variables? (equation : Equation) : Option (Int × Nat) :=
  match equation.rhs with
  | .var id => some (equation.var, id)
  | _ => none

def compare (a b : Equation) : Ordering :=
  (Ord.compare a.var b.var).then (Ord.compare a.rhs b.rhs)

instance : Ord Equation := ⟨compare⟩
instance : LT Equation := ltOfOrd
instance : LE Equation := leOfOrd

def relate (relation : Relation) (a b : Equation) : Except Unordered Bool :=
  if a.var ≠ b.var then .ok (relation.holds (Ord.compare a.var b.var))
  else if a.rhs ≠ b.rhs then a.rhs.relate relation b.rhs
  else .ok (relation.holds .eq)

/-- The equation after a renaming, and the error if its right side could not be renamed. The variable is
renamed first, and stays so. -/
def rename (source target : Int) (equation : Equation) : Equation × Except InvalidId Unit :=
  let var := if equation.var = source then target else equation.var
  match equation.rhs.rename source (variableId (.int target)) with
  | .ok rhs => (⟨var, rhs⟩, .ok ())
  | .error error => ({ equation with var }, .error error)

end Equation

end TypeEquations
