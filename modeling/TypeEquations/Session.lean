import TypeEquations.Elimination

/-!
# Sessions

A user at work with an elimination, who keeps hold of equations and may rename them at any time.
-/

namespace TypeEquations

/-- An elimination together with what its user holds: own equations, those last added, the equation last
fired, and a current type. -/
structure Session where
  elimination : Elimination
  caller : List EquationId
  added : List EquationId
  fired : Option EquationId
  type : Ty

namespace Session

inductive Holder where
  | caller
  | added
  | stored
  | fired
deriving DecidableEq

/-- What a user can do. An action on a type takes the current one if it names none. -/
inductive Action where
  | constrain (left right : Ty)
  | append (equation : Equation)
  | setType (type : Ty)
  | setLimit (limit : Int)
  | step (type : Option Ty)
  | normalize (type : Option Ty)
  | isResolved (type : Option Ty)
  | vars
  | merge
  | rename (holder : Holder) (source target : Int)

inductive Answer where
  | done
  | equations (equations : List Equation)
  | fired (equation : Option Equation)
  | type (t : Ty)
  | resolved (yes : Bool)
  | vars (left : List Int) (right : List Nat)
  | renamings (renamings : List (Int × Int))
  | count (equations : Nat)

def start (equations : List Equation) (limit : Int) (listener : Option Listener) (type : Ty) : Session :=
  let (registry, caller) := Registry.empty.addAll equations
  ⟨.start registry caller limit listener, caller, [], none, type⟩

def held (session : Session) : Holder → List EquationId
  | .caller => session.caller
  | .added => session.added
  | .stored => session.elimination.ids
  | .fired => session.fired.toList

def callerEquations (session : Session) : List Equation :=
  session.elimination.registry.select session.caller

/-- The state reached stays when an action fails. -/
def perform (session : Session) : Action → Session × Except Elimination.Failure Answer
  | .constrain left right =>
    match session.elimination.constrain left right with
    | (elimination, .ok ids) =>
      ({ session with elimination, added := ids }, .ok (.equations (elimination.registry.select ids)))
    | (elimination, .error failure) => ({ session with elimination }, .error failure)
  | .append equation =>
    ({ session with elimination := (session.elimination.append [equation]).1 }, .ok .done)
  | .setType type => ({ session with type }, .ok .done)
  | .setLimit limit => ({ session with elimination := { session.elimination with limit } }, .ok .done)
  | .step type =>
    match session.elimination.step (type.getD session.type) with
    | (elimination, .ok (type, fired)) =>
      ({ session with elimination, fired, type },
        .ok (.fired (fired.bind elimination.registry.get?)))
    | (elimination, .error failure) => ({ session with elimination }, .error failure)
  | .normalize type =>
    match session.elimination.normalize (type.getD session.type) with
    | (elimination, .ok type) => ({ session with elimination, type }, .ok (.type type))
    | (elimination, .error failure) => ({ session with elimination }, .error failure)
  | .isResolved type =>
    (session, .ok (.resolved (session.elimination.isResolved (type.getD session.type))))
  | .vars =>
    let equations := session.elimination.equations
    (session, .ok (.vars equations.leftVars equations.rightVars))
  | .merge =>
    match session.elimination.merge with
    | (elimination, outcome) => ({ session with elimination }, outcome.map .renamings)
  | .rename holder source target =>
    let ids := session.held holder
    match session.elimination.renameAll source target ids with
    | (elimination, outcome) =>
      ({ session with elimination }, outcome.map fun _ => .count ids.length)

end Session

end TypeEquations
