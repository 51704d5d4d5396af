import TypeEquations.Equate
import TypeEquations.Registry

/-!
# Elimination

Variables are eliminated from types by equations, one substitution at a time, under a limit, and each
substitution is recorded. Equations are held by number, so that those handed in, those stored and those
recorded can be told apart.
-/

namespace TypeEquations

structure Step where
  equation : Equation
  before : Ty
  after : Ty
deriving DecidableEq, Inhabited

def Step.render (step : Step) : String :=
  "[" ++ step.equation.render .plain ++ "] " ++ step.before.render .plain ++ " => " ++
    step.after.render .plain

def Step.next? (equations : Equations) (type : Ty) : Option Step :=
  let attempt := type.substitute equations
  attempt.fired.map (⟨·, type, attempt.type⟩)

structure Entry where
  equation : EquationId
  before : Ty
  after : Ty
deriving DecidableEq

/-- Hears of each step after all steps before it, and may object with a text. -/
abbrev Listener := Array Step → Option String

/-- Equations that are applied to types one substitution at a time. No equation is listed twice, and all
numbers lead to equations. -/
structure Elimination where
  registry : Registry
  ids : List EquationId
  limit : Int
  history : Array Entry
  listener : Option Listener
  heard : Array Step
  nodup_ids : ids.Nodup
  ids_lt : ∀ id ∈ ids, id < registry.entries.size
  history_lt : ∀ entry ∈ history, entry.equation < registry.entries.size

namespace Elimination

inductive Failure where
  | mismatch (error : Mismatch)
  | limitExceeded (limit : Int) (last : Ty)
  | invalidId (error : InvalidId)
  | objection (text : String)

def Failure.message : Failure → String
  | mismatch error => error.message
  | limitExceeded limit last =>
    "No fixpoint after " ++ toString limit ++ " substitution steps, last expression: " ++
      last.render .plain
  | invalidId error => error.message
  | objection text => text

def start (registry : Registry) (caller : List EquationId) (limit : Int) (listener : Option Listener) :
    Elimination where
  registry := (registry.copyAll caller).1
  ids := (registry.copyAll caller).2
  limit := limit
  history := #[]
  listener := listener
  heard := #[]
  nodup_ids := registry.nodup_addAll _
  ids_lt := fun _ hid => (Registry.mem_addAll.mp hid).2
  history_lt := by simp

def equations (state : Elimination) : Equations :=
  state.registry.select state.ids

/-- The steps that the history tells, with their equations as they now are. -/
def steps (state : Elimination) : List Step :=
  state.history.toList.filterMap fun entry =>
    (state.registry.get? entry.equation).map (⟨·, entry.before, entry.after⟩)

def append (state : Elimination) (equations : List Equation) : Elimination × List EquationId :=
  let added := state.registry.addAll equations
  ({ state with
      registry := added.1
      ids := state.ids ++ added.2
      nodup_ids := by
        refine List.nodup_append.mpr
          ⟨state.nodup_ids, state.registry.nodup_addAll equations, fun id hold id' hnew heq => ?_⟩
        have hlt := state.ids_lt id hold
        have hge := (Registry.mem_addAll.mp hnew).1
        exact Nat.not_lt.mpr hge (heq ▸ hlt)
      ids_lt := by
        intro id hid
        rcases List.mem_append.mp hid with hold | hnew
        · exact Registry.lt_size_addAll equations (state.ids_lt id hold)
        · exact (Registry.mem_addAll.mp hnew).2
      history_lt := fun entry hentry => Registry.lt_size_addAll equations (state.history_lt entry hentry) },
    added.2)

def constrain (state : Elimination) (left right : Ty) :
    Elimination × Except Failure (List EquationId) :=
  match left.equate right with
  | .error error => (state, .error (.mismatch error))
  | .ok equations =>
    let (state, ids) := state.append equations
    (state, .ok ids)

def announce (state : Elimination) (step : Step) : Elimination × Except Failure Unit :=
  match state.listener with
  | none => (state, .ok ())
  | some listener =>
    let heard := state.heard.push step
    ({ state with heard }, match listener heard with
      | none => .ok ()
      | some text => .error (.objection text))

def record (state : Elimination) (step : Step) : Elimination × EquationId :=
  let added := state.registry.add step.equation
  ({ state with
      registry := added.1
      history := state.history.push ⟨added.2, step.before, step.after⟩
      ids_lt := fun id hid => Registry.lt_size_addAll [step.equation] (state.ids_lt id hid)
      history_lt := by
        intro entry hentry
        rcases Array.mem_push.mp hentry with hold | rfl
        · exact Registry.lt_size_addAll [step.equation] (state.history_lt entry hold)
        · exact Array.size_push _ ▸ Nat.lt_succ_self _ },
    added.2)

/-- At most one substitution. It is recorded, with a copy of its equation, before the listener hears. -/
def step (state : Elimination) (type : Ty) :
    Elimination × Except Failure (Ty × Option EquationId) :=
  match Step.next? state.equations type with
  | none => (state, .ok (type, none))
  | some step =>
    let (state, id) := state.record step
    match state.announce step with
    | (state, .ok ()) => (state, .ok (step.after, some id))
    | (state, .error failure) => (state, .error failure)

def isResolved (state : Elimination) (type : Ty) : Bool :=
  state.equations.isResolved type

/-- Steps until none is possible, but at most `bound`; then no variable with an equation may be left. -/
def normalizeWithin (state : Elimination) (type : Ty) : Nat → Elimination × Except Failure Ty
  | 0 =>
    if state.isResolved type then (state, .ok type)
    else (state, .error (.limitExceeded state.limit type))
  | bound + 1 =>
    match state.step type with
    | (state, .error failure) => (state, .error failure)
    | (state, .ok (type, none)) => (state, .ok type)
    | (state, .ok (type, some _)) => state.normalizeWithin type bound

def normalize (state : Elimination) (type : Ty) : Elimination × Except Failure Ty :=
  state.normalizeWithin type state.limit.toNat

def withEntries (state : Elimination) (registry : Registry)
    (hsize : registry.entries.size = state.registry.entries.size) : Elimination :=
  { state with
    registry
    ids_lt := hsize ▸ state.ids_lt
    history_lt := hsize ▸ state.history_lt }

def merge (state : Elimination) : Elimination × Except Failure (List (Int × Int)) :=
  let merged := state.registry.merge state.ids
  (state.withEntries merged.1 (Registry.size_merge ..), merged.2.mapError .invalidId)

def renameAll (state : Elimination) (source target : Int) (ids : List EquationId) :
    Elimination × Except Failure Unit :=
  let renamed := state.registry.renameAll source target ids
  (state.withEntries renamed.1 (Registry.size_renameAll ..), renamed.2.mapError .invalidId)

theorem equations_start (registry : Registry) (caller : List EquationId) (limit : Int)
    (listener : Option Listener) :
    (start registry caller limit listener).equations = registry.select caller :=
  registry.select_addAll _

theorem equations_append (state : Elimination) (equations : List Equation) :
    (state.append equations).1.equations = state.equations ++ equations := by
  have hold := Registry.select_addAll_of_lt equations state.ids_lt
  have hnew := state.registry.select_addAll equations
  simp only [Elimination.equations, append, Registry.select_append, hold, hnew]

theorem equations_record (state : Elimination) (step : Step) :
    (state.record step).1.equations = state.equations :=
  Registry.select_addAll_of_lt [step.equation] state.ids_lt

end Elimination

end TypeEquations
