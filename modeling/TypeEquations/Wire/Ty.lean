import TypeEquations.InvalidId
import TypeEquations.Ty

/-!
# Types in JSON

A base type is a word; any other type is an object with the name of its constructor as its only key. What is
read is checked for its form first, and then made a type.
-/

namespace TypeEquations

namespace Wire

/-- What has the form of a type: words, ids that are integers, and functions and pairs of these. -/
inductive Form where
  | fn (left right : Form)
  | pair (left right : Form)
  | var (id : Int)
  | word (text : String)
deriving DecidableEq

inductive Misfit where
  | unknownWord (text : String)
  | invalidId (error : InvalidId)

namespace Form

def ofJsonWithin : Nat → Json → Option Form
  | _, .str text => if text = "Bool" ∨ text = "Int" then some (word text) else none
  | depth + 1, .obj [(key, .arr [left, right])] =>
    if key = "Function" then do
      let left ← ofJsonWithin depth left
      let right ← ofJsonWithin depth right
      return fn left right
    else if key = "Tuple" then do
      let left ← ofJsonWithin depth left
      let right ← ofJsonWithin depth right
      return pair left right
    else none
  | _ + 1, .obj [(key, .int id)] => if key = "Var" ∧ 0 ≤ id then some (var id) else none
  | _, _ => none

/-- The most objects that may lie inside one another in a written type. -/
def nestingLimit : Nat := 254

def ofJson? (json : Json) : Option Form :=
  ofJsonWithin nestingLimit json

def toTy : Form → Except Misfit Ty
  | fn left right => do
    let left ← left.toTy
    let right ← right.toTy
    return .fn left right
  | pair left right => do
    let left ← left.toTy
    let right ← right.toTy
    return .pair left right
  | var id => ((variableId (.int id)).map Ty.var).mapError .invalidId
  | word text =>
    if text = "Bool" then .ok .bool
    else if text = "Int" then .ok .int
    else .error (.unknownWord text)

end Form

end Wire

namespace Ty

def toJson : Ty → Json
  | fn left right => .obj [("Function", .arr [left.toJson, right.toJson])]
  | pair left right => .obj [("Tuple", .arr [left.toJson, right.toJson])]
  | var id => .obj [("Var", .int id)]
  | bool => .str "Bool"
  | int => .str "Int"

def ofJson? (json : Json) : Option Ty :=
  (Wire.Form.ofJson? json).bind fun form => form.toTy.toOption

end Ty

end TypeEquations
