import TypeEquations.CommandLine.Report

/-!
# The program

Reads the environment, runs the command that the arguments name, and prints its report.
-/

namespace TypeEquations.CommandLine

def usageText : String :=
  "usage: unify LEFT RIGHT [--mathjax]\n" ++
    "       solve TARGET RULES [--max-steps N] [--mathjax]\n" ++
    "       vars RULES"

/-- The settings are looked up under their usual spelling. -/
def environmentVariables : IO (List (String × String)) := do
  let names := ["TYPEUNIFY_MAX_STEPS", "TYPEUNIFY_MATHJAX", "TYPEUNIFY_LOG_PROFILE",
    "TYPEUNIFY_LOG_FILTER"]
  let found ← names.mapM fun name => do return (← IO.getEnv name).map (name, ·)
  return found.filterMap id

def envFileText : IO (Option String) :=
  try
    return some (← IO.FS.readFile ".env")
  catch _ => return none

def Report.print (report : Report) : IO UInt32 := do
  report.output.forM fun line => IO.println line
  report.messages.forM fun message =>
    IO.eprintln (message.level.name ++ " | " ++ message.module ++ " | " ++ message.text)
  report.complaints.forM fun complaint => IO.eprintln complaint
  return report.exit.toUInt32

def Outcome.print : Outcome → IO UInt32
  | usage .help => do
    IO.println usageText
    return 0
  | usage .misuse => do
    IO.eprintln usageText
    return 2
  | invalidSettings error complaints => do
    complaints.forM fun complaint => IO.eprintln complaint
    IO.eprintln ("invalid settings: " ++ ", ".intercalate (error.names.map (·.text)))
    return 1
  | report r => r.print

end TypeEquations.CommandLine

def main (arguments : List String) : IO UInt32 := do
  let environment := ⟨← TypeEquations.CommandLine.environmentVariables,
    ← TypeEquations.CommandLine.envFileText⟩
  (TypeEquations.CommandLine.execute environment arguments).print
