import TypeEquations.Association
import TypeEquations.Log.Level
import TypeEquations.Text.Blank

/-!
# Log filters

Which messages are shown: a level for all, and thresholds for modules, which hold for all modules below
them that have none of their own.
-/

namespace TypeEquations.Log

inductive Threshold where
  | silent
  | atLeast (level : Level)
deriving DecidableEq

def Threshold.admits : Threshold → Level → Bool
  | silent, _ => false
  | atLeast least, level => least.severity ≤ level.severity

structure Filter where
  level : Level
  modules : List (String × Threshold)
deriving DecidableEq

namespace Filter

def default : Filter :=
  ⟨.info, []⟩

def threshold? (filter : Filter) (module : String) : Option Threshold :=
  filter.modules.lookup module

def setThreshold (filter : Filter) (module : String) (threshold : Threshold) : Filter :=
  { filter with modules := put module threshold filter.modules }

theorem threshold?_setThreshold (filter : Filter) (module other : String) (threshold : Threshold) :
    (filter.setThreshold module threshold).threshold? other =
      if other = module then some threshold else filter.threshold? other :=
  lookup_put module other threshold filter.modules

def trim (text : List Char) : List Char :=
  Text.trim Text.isBlank text

def readThreshold (text : List Char) : Except UnknownLevel Threshold :=
  if Text.lower text = "false".toList then .ok .silent
  else (Level.ofText text).map .atLeast

/-- Takes `level`, or `module=level`, or `module=false`; the later entry for a module counts. -/
def addPart (filter : Filter) (part : List Char) : Except UnknownLevel Filter :=
  match Text.cut? '=' part with
  | none => (Level.ofText part).map fun level => { filter with level }
  | some (module, threshold) =>
    (readThreshold (trim threshold)).map (filter.setThreshold (String.ofList (trim module)))

def parts (text : List Char) : List (List Char) :=
  ((Text.split ',' text).map trim).filter (!·.isEmpty)

/-- Reads parts between commas; blank ones are passed over, and the first unknown level is the error. -/
def parse (text : String) : Except UnknownLevel Filter :=
  (parts text.toList).foldlM addPart default

def entries (filter : Filter) : List (String × Threshold) :=
  filter.modules.mergeSort fun a b => (compare a.1 b.1).isLE

def parent (module : List Char) : List Char :=
  match (module.reverse.dropWhile (· ≠ '.')) with
  | _ :: rest => rest.reverse
  | [] => []

/-- A module and all above it, up to the empty name. -/
def ancestors (module : List Char) : List (List Char) :=
  if module.isEmpty then [[]] else module :: ancestors (parent module)
termination_by module.length
decreasing_by
  unfold parent
  have hle := (List.dropWhile_sublist (· ≠ '.') (l := module.reverse)).length_le
  split
  · rename_i heq
    rw [heq] at hle
    simp at hle ⊢
    omega
  · cases module <;> simp_all

/-- The nearest entry above a module decides, besides the level for all. -/
def admits (filter : Filter) (module : String) (level : Level) : Bool :=
  let nearest := (ancestors module.toList).findSome? fun name => filter.threshold? (String.ofList name)
  filter.level.severity ≤ level.severity && (nearest.map (·.admits level)).getD true

end Filter

def filterText (environment : List (String × String)) : String :=
  (environment.lookup "TYPEUNIFY_LOG_FILTER").getD "info"

end TypeEquations.Log
