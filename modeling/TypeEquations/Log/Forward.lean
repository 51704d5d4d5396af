import TypeEquations.Log.Level
import TypeEquations.Text.Template

/-!
# Forwarded records

Records of other libraries become lines with the names of their levels.
-/

namespace TypeEquations.Log

inductive ForwardError where
  | template (error : Text.TemplateError)
  | negativeLevel (number : Int)
deriving DecidableEq

def ForwardError.message : ForwardError → String
  | template error => error.message
  | negativeLevel number =>
    "Invalid level value, it should be a positive integer, not: " ++ toString number

def recordLevels : List Level :=
  [.debug, .info, .warning, .error, .critical]

def levelName (number : Nat) : String :=
  match recordLevels.find? (·.severity = number) with
  | some level => level.name
  | none => "Level " ++ toString number

/-- The line that a record becomes: its level and its text, filled in before the level is checked. -/
def forward (level : Int) (template : String) (arguments : List Json) : Except ForwardError String := do
  let text ← (Text.fillTemplate template arguments).mapError .template
  match level with
  | .ofNat number => return levelName number ++ ":" ++ text ++ "\n"
  | .negSucc _ => .error (.negativeLevel level)

end TypeEquations.Log
