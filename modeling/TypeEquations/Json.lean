import TypeEquations.Binary64

/-!
# JSON

Values of the data format in which types and equations are exchanged.
-/

namespace TypeEquations

/-- JSON values. Numbers with a fraction or an exponent are doubles, all others are integers. -/
inductive Json where
  | null
  | bool (value : Bool)
  | int (value : Int)
  | float (value : Binary64)
  | str (text : String)
  | arr (items : List Json)
  | obj (members : List (String × Json))
deriving Inhabited

namespace Json

def get? (key : String) : Json → Option Json
  -- of several members with one key the last counts
  | obj members => (members.reverse.find? (·.1 = key)).map (·.2)
  | _ => none

end Json

end TypeEquations
