/-!
# Relations

The four relations of an order.
-/

namespace TypeEquations

inductive Relation where
  | less
  | lessEqual
  | greater
  | greaterEqual
deriving DecidableEq

def Relation.symbol : Relation → String
  | less => "<"
  | lessEqual => "<="
  | greater => ">"
  | greaterEqual => ">="

def Relation.holds : Relation → Ordering → Bool
  | less, order => order.isLT
  | lessEqual, order => order.isLE
  | greater, order => order.isGT
  | greaterEqual, order => order.isGE

structure Unordered where
  relation : Relation
  left : String
  right : String
deriving DecidableEq

def Unordered.message (error : Unordered) : String :=
  "'" ++ error.relation.symbol ++ "' not supported between instances of '" ++ error.left ++ "' and '" ++
    error.right ++ "'"

end TypeEquations
