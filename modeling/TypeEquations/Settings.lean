import TypeEquations.Association
import TypeEquations.EnvFile
import TypeEquations.Json
import TypeEquations.Log.Setup
import TypeEquations.Style
import TypeEquations.Text.Letters
import TypeEquations.Text.WholeNumber

/-!
# Settings

The limit of an elimination, the style of the output and the profile of the log, each from the strongest
source that has a value for it.
-/

namespace TypeEquations

structure Settings where
  maxSteps : Nat
  style : Style
  profile : Log.Profile
deriving DecidableEq

namespace Settings

inductive Name where
  | logProfile
  | mathjax
  | maxSteps
deriving DecidableEq

def Name.all : List Name :=
  [.logProfile, .mathjax, .maxSteps]

def Name.text : Name → String
  | logProfile => "log_profile"
  | mathjax => "mathjax"
  | maxSteps => "max_steps"

structure Sources where
  -- the strongest source comes first
  overrides : List (String × Json)
  environment : List (String × String)
  envFile : Option String

/-- The value under a name written in any case; of several spellings the one that came up last counts. -/
def valueOf? (name : String) (bindings : List (String × Option String)) : Option String :=
  ((putAll bindings).reverse.find? fun binding => Text.lower binding.1.toList = name.toList).bind (·.2)

def Sources.file (sources : Sources) : EnvFile.Contents :=
  match sources.envFile with
  | some text => EnvFile.read sources.environment text
  | none => ⟨[], []⟩

/-- The value of a setting in the strongest source that has one. -/
def Sources.value? (sources : Sources) (name : Name) : Option Json :=
  let key := "typeunify_" ++ name.text
  match sources.overrides.lookup name.text with
  | some .null | none =>
    let inEnvironment := sources.environment.map fun (name, value) => (name, some value)
    let inFile := sources.file.bindings.map fun binding => (binding.name, binding.value)
    (valueOf? key inEnvironment <|> valueOf? key inFile).map .str
  | some value => some value

/-- Doubles from this bound on, `2 ^ 63`, are too large to be counts. -/
def countBound : Int := 0x8000000000000000

def readCount (value : Json) : Option Nat :=
  let count := match value with
    | .bool value => some (if value then 1 else 0)
    | .int (.ofNat value) => some value
    | .float value => value.toInt?.bind fun n => if n < countBound then some n.toNat else none
    | .str text => Text.wholeNumber? text
    | _ => none
  count.filter (0 < ·)

def yesWords : List String := ["true", "t", "1", "yes", "y", "on"]

def noWords : List String := ["false", "f", "0", "no", "n", "off"]

def readFlag (value : Json) : Option Bool :=
  let ofInt := fun n : Int => if n = 0 then some false else if n = 1 then some true else none
  match value with
  | .bool value => some value
  | .int value => ofInt value
  | .float value => value.toInt?.bind ofInt
  | .str text =>
    let word := String.ofList (Text.lower text.toList)
    if word ∈ yesWords then some true else if word ∈ noWords then some false else none
  | _ => none

def readStyle (value : Json) : Option Style :=
  (readFlag value).map fun typeset => if typeset then .typeset else .plain

def readProfile : Json → Option Log.Profile
  | .str text => Log.Profile.ofName? text
  | _ => none

def Sources.read (sources : Sources) (name : Name) (ofJson? : Json → Option α) (default : α) : Option α :=
  match sources.value? name with
  | some value => ofJson? value
  | none => some default

structure Invalid where
  names : List Name
deriving DecidableEq

def load (sources : Sources) : Except Invalid Settings :=
  let maxSteps := sources.read .maxSteps readCount 1000
  let style := sources.read .mathjax readStyle .plain
  let profile := sources.read .logProfile readProfile .default
  match maxSteps, style, profile with
  | some maxSteps, some style, some profile => .ok ⟨maxSteps, style, profile⟩
  | _, _, _ =>
    .error ⟨Name.all.filter fun
      | .logProfile => profile.isNone
      | .mathjax => style.isNone
      | .maxSteps => maxSteps.isNone⟩

end Settings

end TypeEquations
