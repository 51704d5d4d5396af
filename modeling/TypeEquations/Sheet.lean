import TypeEquations.Equate
import TypeEquations.Registry

/-!
# Sheets

A list of equations under edit. Copies are independent, shared entries are not.
-/

namespace TypeEquations

structure Sheet where
  registry : Registry
  ids : List EquationId
deriving Inhabited

namespace Sheet

inductive Failure where
  | noSuchPlace
  | nothingToRemove
  | noSuchPlaceToRemove
  | invalidId (error : InvalidId)
  | mismatch (error : Mismatch)

def Failure.message : Failure → String
  | noSuchPlace => "list index out of range"
  | nothingToRemove => "pop from empty list"
  | noSuchPlaceToRemove => "pop index out of range"
  | invalidId error => error.message
  | mismatch error => error.message

def ofEquations (equations : List Equation) : Sheet :=
  let (registry, ids) := Registry.empty.addAll equations
  ⟨registry, ids⟩

def equations (sheet : Sheet) : List Equation :=
  sheet.registry.select sheet.ids

def place? (sheet : Sheet) (index : Int) : Option Nat :=
  -- negative places count from the end
  let place := if index < 0 then index + sheet.ids.length else index
  if 0 ≤ place ∧ place < sheet.ids.length then some place.toNat else none

def entryAt (sheet : Sheet) (index : Int) : Except Failure (EquationId × Equation) :=
  match (sheet.place? index).bind (sheet.ids[·]?) with
  | some id =>
    match sheet.registry.get? id with
    | some equation => .ok (id, equation)
    | none => .error .noSuchPlace
  | none => .error .noSuchPlace

def append (sheet : Sheet) (equation : Equation) : Sheet :=
  let (registry, id) := sheet.registry.add equation
  ⟨registry, sheet.ids ++ [id]⟩

def appendAll (sheet : Sheet) (equations : List Equation) : Sheet :=
  let (registry, ids) := sheet.registry.addAll equations
  ⟨registry, sheet.ids ++ ids⟩

def copy (sheet : Sheet) (index : Int) : Except Failure Sheet := do
  let (_, equation) ← sheet.entryAt index
  return sheet.append equation

/-- Appends the same equation once more. -/
def share (sheet : Sheet) (index : Int) : Except Failure Sheet := do
  let (id, _) ← sheet.entryAt index
  return { sheet with ids := sheet.ids ++ [id] }

def remove (sheet : Sheet) (index : Int) : Except Failure (Sheet × Equation) :=
  match sheet.place? index, sheet.entryAt index with
  | some place, .ok (_, equation) => .ok ({ sheet with ids := sheet.ids.eraseIdx place }, equation)
  | _, _ => .error (if sheet.ids.isEmpty then .nothingToRemove else .noSuchPlaceToRemove)

def sort (sheet : Sheet) : Sheet :=
  let entries := sheet.ids.filterMap fun id => (sheet.registry.get? id).map (id, ·)
  { sheet with ids := (entries.mergeSort fun a b => (Ord.compare a.2 b.2).isLE).map (·.1) }

def find? (sheet : Sheet) (var : Int) : Option (Nat × Equation) := do
  let equation ← Equations.lookup? sheet.equations var
  let place ← sheet.equations.findIdx? (·.var = var)
  return (place, equation)

inductive Action where
  | append (equation : Equation)
  | copy (index : Int)
  | share (index : Int)
  | remove (index : Int)
  | sort
  | rename (index source target : Int)
  | renameAll (source target : Int)
  | renameFound (var source target : Int)
  | find (var : Int)
  | substitute (index : Int)
  | equate (left right : Int)
  | vars

inductive Answer where
  | done
  | removed (equation : Equation)
  | found (place : Option (Nat × Equation))
  | substituted (attempt : Attempt)
  | equations (equations : List Equation)
  | vars (left : List Int) (right : List Nat)

def attempted (sheet : Sheet) (outcome : Except Failure (Sheet × Answer)) :
    Sheet × Except Failure Answer :=
  match outcome with
  | .ok (sheet, answer) => (sheet, .ok answer)
  | .error failure => (sheet, .error failure)

def renameEach (sheet : Sheet) (source target : Int) (ids : List EquationId) :
    Sheet × Except Failure Answer :=
  let (registry, outcome) := sheet.registry.renameAll source target ids
  ({ sheet with registry }, (outcome.mapError .invalidId).map fun _ => .done)

/-- A failing action may have changed equations before it failed. -/
def perform (sheet : Sheet) : Action → Sheet × Except Failure Answer
  | .append equation => (sheet.append equation, .ok .done)
  | .copy index => sheet.attempted ((sheet.copy index).map (·, .done))
  | .share index => sheet.attempted ((sheet.share index).map (·, .done))
  | .remove index =>
    sheet.attempted ((sheet.remove index).map fun (sheet, equation) => (sheet, .removed equation))
  | .sort => (sheet.sort, .ok .done)
  | .rename index source target =>
    match sheet.entryAt index with
    | .error failure => (sheet, .error failure)
    | .ok (id, _) => sheet.renameEach source target [id]
  | .renameAll source target => sheet.renameEach source target sheet.ids
  | .renameFound var source target =>
    let id? := (sheet.find? var).bind fun (place, _) => sheet.ids[place]?
    sheet.renameEach source target id?.toList
  | .find var => (sheet, .ok (.found (sheet.find? var)))
  | .substitute index =>
    match sheet.entryAt index with
    | .error failure => (sheet, .error failure)
    | .ok (id, _) =>
      match sheet.registry.substitute sheet.ids id with
      | (registry, some attempt) => ({ sheet with registry }, .ok (.substituted attempt))
      | (registry, none) => ({ sheet with registry }, .error .noSuchPlace)
  | .equate left right =>
    sheet.attempted do
      let (_, left) ← sheet.entryAt left
      let (_, right) ← sheet.entryAt right
      let equations ← (left.rhs.equate right.rhs).mapError .mismatch
      return (sheet.appendAll equations, .equations equations)
  | .vars =>
    (sheet, .ok (.vars (Equations.leftVars sheet.equations) (Equations.rightVars sheet.equations)))

end Sheet

end TypeEquations
