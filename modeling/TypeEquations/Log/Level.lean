import TypeEquations.Text.Letters
import TypeEquations.Text.Quoted

/-!
# Log levels
-/

namespace TypeEquations.Log

inductive Level where
  | trace
  | debug
  | info
  | success
  | warning
  | error
  | critical
deriving DecidableEq, Inhabited

namespace Level

def all : List Level :=
  [trace, debug, info, success, warning, error, critical]

def name : Level → String
  | trace => "TRACE"
  | debug => "DEBUG"
  | info => "INFO"
  | success => "SUCCESS"
  | warning => "WARNING"
  | error => "ERROR"
  | critical => "CRITICAL"

def severity : Level → Nat
  | trace => 5
  | debug => 10
  | info => 20
  | success => 25
  | warning => 30
  | error => 40
  | critical => 50

end Level

structure UnknownLevel where
  text : String
deriving DecidableEq

def UnknownLevel.message (error : UnknownLevel) : String :=
  "Unknown log level " ++ Text.quote error.text ++ " in TYPEUNIFY_LOG_FILTER"

def Level.ofText (text : List Char) : Except UnknownLevel Level :=
  match all.find? (·.name.toList = Text.capitals text) with
  | some level => .ok level
  | none => .error ⟨String.ofList text⟩

end TypeEquations.Log
