import TypeEquations.Json.Inspect

/-!
# Ids of variables

Any value may be offered as the id of a variable; natural numbers are taken.
-/

namespace TypeEquations

structure InvalidId where
  found : Json

def InvalidId.message (error : InvalidId) : String :=
  "Variable id must be a non-negative integer, got " ++ error.found.inspect

def variableId : Json → Except InvalidId Nat
  | .int (.ofNat id) => .ok id
  | found => .error ⟨found⟩

end TypeEquations
