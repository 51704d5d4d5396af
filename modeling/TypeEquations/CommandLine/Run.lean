import TypeEquations.CommandLine.Arguments
import TypeEquations.Elimination
import TypeEquations.Settings
import TypeEquations.Wire.Document

/-!
# Commands

The commands as functions from the texts of their arguments to lines and messages in order.
-/

namespace TypeEquations.CommandLine

structure Message where
  level : Log.Level
  module : String
  text : String
deriving DecidableEq

inductive Event where
  | line (text : String)
  | message (m : Message)
deriving DecidableEq

structure Run where
  events : List Event
  complaint : Option String
  exit : Nat
deriving DecidableEq

namespace Run

def completed (events : List Event) : Run :=
  ⟨events, none, 0⟩

def stopped (events : List Event) (complaint : String) : Run :=
  ⟨events, some complaint, 1⟩

def refused (message : String) : Run :=
  ⟨[], some ("Error: " ++ message), 2⟩

end Run

def note (level : Log.Level) (module text : String) : Event :=
  .message ⟨level, module, text⟩

def plain (type : Ty) : String :=
  type.render .plain

def unifyTypes (style : Style) (left right : Ty) : Run :=
  let start := note .info "typeunify.cli.app" <|
    "unify.start left=" ++ plain left ++ " right=" ++ plain right
  match left.equate right with
  | .ok equations => .completed (start :: equations.map fun equation => .line (equation.render style))
  | .error mismatch =>
    let failure := note .debug "typeunify.core.unify" <|
      "unify.mismatch left=" ++ plain mismatch.left ++ " right=" ++ plain mismatch.right
    .stopped [start, failure] ("Mismatch: " ++ mismatch.message)

def stepEvents (style : Style) (step : Step) : List Event :=
  [note .debug "typeunify.core.unify" <|
      "substitute.step rule=" ++ step.equation.render .plain ++ " var=" ++
        Style.plain.variable step.equation.var,
    note .debug "typeunify.solver" ("stepper.step " ++ step.render),
    .line (step.equation.render style ++ ": " ++ step.after.render style)]

/-- An elimination with these equations, whose listener hears each step to print it. -/
def solving (limit : Nat) (equations : List Equation) : Elimination :=
  let (registry, ids) := Registry.empty.addAll equations
  .start registry ids limit (some fun _ => none)

def solveType (style : Style) (limit : Nat) (target : Ty) (equations : List Equation) : Run :=
  let (state, outcome) := (solving limit equations).normalize target
  let events := .line (target.render style) :: state.heard.toList.flatMap (stepEvents style)
  match outcome with
  | .ok result =>
    .completed <| events ++
      [note .info "typeunify.cli.app" <|
          "solve.done steps=" ++ toString state.history.size ++ " result=" ++ plain result,
        .line ("result: " ++ result.render style)]
  | .error failure =>
    let last := match failure with
      | .limitExceeded limit last =>
        [note .warning "typeunify.solver" <|
          "stepper.limit max_steps=" ++ toString limit ++ " expr=" ++ plain last]
      | _ => []
    .stopped (events ++ last) ("Stopped: " ++ failure.message)

def variableNames (ids : List Int) : String :=
  ", ".intercalate (ids.map Style.plain.variable)

def showVars (equations : Equations) : Run :=
  .completed
    [.line ("lhs: " ++ variableNames equations.leftVars),
      .line ("rhs: " ++ variableNames (equations.rightVars.map Int.ofNat))]

/-- The texts are read from left to right, and the first that cannot be read is complained of. -/
def Command.run (style : Style) (limit : Nat) : Command → Run
  | .unify left right =>
    match Wire.readType (.text left), Wire.readType (.text right) with
    | .ok left, .ok right => unifyTypes style left right
    | .error error, _ => .refused error.message
    | _, .error error => .refused error.message
  | .solve target equations =>
    match Wire.readType (.text target), Wire.readEquations (.text equations) with
    | .ok target, .ok equations => solveType style limit target equations
    | .error error, _ => .refused error.message
    | _, .error error => .refused error.message
  | .vars equations =>
    match Wire.readEquations (.text equations) with
    | .ok equations => showVars equations
    | .error error => .refused error.message

end TypeEquations.CommandLine
