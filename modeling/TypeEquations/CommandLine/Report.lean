import TypeEquations.CommandLine.Run
import TypeEquations.Text.Markup
import TypeEquations.Text.Wrap

/-!
# Reports

From arguments and environment to what a process prints and how it ends. Messages that the log filter
lets through go beside the output or into it, as the profile says.
-/

namespace TypeEquations.CommandLine

structure Report where
  exit : Nat
  output : List String
  complaints : List String
  messages : List Message
deriving DecidableEq

inductive Outcome where
  | usage (usage : Usage)
  | invalidSettings (error : Settings.Invalid) (complaints : List String)
  | report (report : Report)
deriving DecidableEq

structure Environment where
  assigned : List (String × String)
  envFile : Option String

def overrides (invocation : Invocation) : List (String × Json) :=
  (if invocation.mathjax then [("mathjax", .bool true)] else []) ++
    (invocation.maxSteps.map fun limit => ("max_steps", Json.int limit)).toList

def levelWidth : Nat := 8

def lineWidth : Nat := 1000

/-- The lines of a message within the output: its text, beside its level in the first line. -/
def Message.lines (message : Message) : List String :=
  let blanks := fun count => List.replicate count ' '
  let name := message.level.name.toList
  let margin := name ++ blanks (levelWidth + 1 - name.length)
  match Text.wrap (lineWidth - levelWidth - 1) message.text.toList with
  | first :: rest =>
    String.ofList (margin ++ first) :: rest.map fun line =>
      String.ofList (Text.trimEnd Text.isBlank (blanks (levelWidth + 1) ++ line))
  | [] => []

def Event.outputLines (profile : Log.Profile) : Event → List String
  | line text => [text]
  | message m => if profile = .rich then m.lines else []

def Event.message? (profile : Log.Profile) : Event → Option Message
  | line _ => none
  | message m => if profile = .default then some m else none

def Event.isShown (setup : Log.Setup) : Event → Bool
  | line _ => true
  | message m => setup.shows m.module m.level

def Run.report (run : Run) (setup : Log.Setup) (profile : Log.Profile) (complaints : List String) :
    Report :=
  let shown := run.events.filter (·.isShown setup)
  ⟨run.exit, shown.flatMap (·.outputLines profile), complaints ++ run.complaint.toList,
    shown.filterMap (·.message? profile)⟩

/-- Arguments come before settings, settings before the log filter, and this before the command. The text
of a filter is shown as a console shows it, since anything may stand in it. -/
def execute (environment : Environment) (arguments : List String) : Outcome :=
  match readArguments arguments with
  | .error usage => .usage usage
  | .ok invocation =>
    let sources := ⟨overrides invocation, environment.assigned, environment.envFile⟩
    let complaints := (Settings.Sources.file sources).unreadable.map EnvFile.complaint
    match Settings.load sources with
    | .error error => .invalidSettings error complaints
    | .ok settings =>
      match Log.Setup.initial.configure settings.profile (Log.filterText environment.assigned) with
      | (setup, .error error) =>
        .report ((Run.refused (Text.shown error.message)).report setup settings.profile complaints)
      | (setup, .ok ()) =>
        let run := invocation.command.run settings.style settings.maxSteps
        .report (run.report setup settings.profile complaints)

end TypeEquations.CommandLine
