/-!
# Styles
-/

namespace TypeEquations

inductive Style where
  | plain
  | typeset
deriving DecidableEq

def Style.variable : Style → Int → String
  | plain, id => "t" ++ toString id
  | typeset, id => "t_\x7b" ++ toString id ++ "\x7d"

def Style.arrow : Style → String
  | plain => "->"
  | typeset => "\\to"

end TypeEquations
