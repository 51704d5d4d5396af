import TypeEquations.Binary64.Text
import TypeEquations.Json
import TypeEquations.Text.Quoted

/-!
# Values in diagnostics

How error texts show a value that was found in place of another.
-/

namespace TypeEquations

namespace Json

mutual

def inspect : Json → String
  | null => "None"
  | bool true => "True"
  | bool false => "False"
  | int value => toString value
  | float value => value.spell
  | str text => Text.quote text
  | arr items => "[" ++ ", ".intercalate (inspectItems items) ++ "]"
  | obj members => "\x7b" ++ ", ".intercalate (inspectMembers members) ++ "\x7d"

def inspectItems : List Json → List String
  | [] => []
  | item :: rest => item.inspect :: inspectItems rest

def inspectMembers : List (String × Json) → List String
  | [] => []
  | (key, value) :: rest => (Text.quote key ++ ": " ++ value.inspect) :: inspectMembers rest

end

def display : Json → String
  | str text => text
  | value => value.inspect

def kind : Json → String
  | null => "NoneType"
  | bool _ => "bool"
  | int _ => "int"
  | float _ => "float"
  | str _ => "str"
  | arr _ => "list"
  | obj _ => "dict"

end Json

end TypeEquations
