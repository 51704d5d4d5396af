import TypeEquations.Text.WholeNumber

/-!
# Arguments

What the arguments of a process ask for, or that they ask for nothing it can do.
-/

namespace TypeEquations.CommandLine

inductive Command where
  | unify (left right : String)
  | solve (target equations : String)
  | vars (equations : String)
deriving DecidableEq

structure Invocation where
  command : Command
  mathjax : Bool
  maxSteps : Option Nat
deriving DecidableEq

inductive Usage where
  | help
  | misuse
deriving DecidableEq

structure Scanned where
  positional : List String
  mathjax : Bool
  maxSteps : Option String
  help : Bool
deriving DecidableEq

namespace Scanned

def empty : Scanned :=
  ⟨[], false, none, false⟩

def addPositional (scanned : Scanned) (arguments : List String) : Scanned :=
  { scanned with positional := scanned.positional ++ arguments }

end Scanned

structure Options where
  mathjax : Bool
  maxSteps : Bool
deriving DecidableEq

def isOption (argument : String) : Bool :=
  argument.toList.head? = some '-' && argument.length ≠ 1

def maxStepsValue? (argument : String) : Option String :=
  match Text.cut? '=' argument.toList with
  | some (name, value) => if name = "--max-steps".toList then some (String.ofList value) else none
  | none => none

/-- Options may stand anywhere before `--`; of a repeated one the last counts. -/
def scan (options : Options) (scanned : Scanned) : List String → Option Scanned
  | [] => some scanned
  | argument :: rest =>
    if argument = "--" then some (scanned.addPositional rest)
    else if !isOption argument then scan options (scanned.addPositional [argument]) rest
    else if argument = "--help" then scan options { scanned with help := true } rest
    else if options.mathjax ∧ argument = "--mathjax" then
      scan options { scanned with mathjax := true } rest
    else if !options.maxSteps then none
    else if argument = "--max-steps" then
      match rest with
      | value :: rest => scan options { scanned with maxSteps := some value } rest
      | [] => none
    else
      match maxStepsValue? argument with
      | some value => scan options { scanned with maxSteps := some value } rest
      | none => none

def readMaxSteps : Option String → Option (Option Nat)
  | none => some none
  | some text => ((Text.wholeNumber? text).filter (0 < ·)).map some

def finish (scanned : Option Scanned) (command? : List String → Option Command) :
    Except Usage Invocation :=
  match scanned with
  | none => .error .misuse
  | some scanned =>
    if scanned.help then .error .help
    else
      match command? scanned.positional, readMaxSteps scanned.maxSteps with
      | some command, some maxSteps => .ok ⟨command, scanned.mathjax, maxSteps⟩
      | _, _ => .error .misuse

def readUnify (arguments : List String) : Except Usage Invocation :=
  finish (scan ⟨true, false⟩ .empty arguments) fun
    | [left, right] => some (.unify left right)
    | _ => none

def readSolve (arguments : List String) : Except Usage Invocation :=
  finish (scan ⟨true, true⟩ .empty arguments) fun
    | [target, equations] => some (.solve target equations)
    | _ => none

def readVars (arguments : List String) : Except Usage Invocation :=
  finish (scan ⟨false, false⟩ .empty arguments) fun
    | [equations] => some (.vars equations)
    | _ => none

def readCommand : List String → Except Usage Invocation
  | "unify" :: arguments => readUnify arguments
  | "solve" :: arguments => readSolve arguments
  | "vars" :: arguments => readVars arguments
  | _ => .error .misuse

def readArguments : List String → Except Usage Invocation
  | "--help" :: _ => .error .help
  | "--" :: arguments => readCommand arguments
  | arguments => readCommand arguments

end TypeEquations.CommandLine
