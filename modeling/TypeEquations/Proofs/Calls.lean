import TypeEquations.Proofs.Constraints
import TypeEquations.Proofs.Listening
import TypeEquations.Proofs.Renaming

/-!
# Calls

An elimination in use. Whatever is called and however a call ends, the stored equations go on saying what the
first equations and the accepted constraints say.
-/

namespace TypeEquations.Elimination

inductive Call where
  | constrain (left right : Ty)
  | step (type : Ty)
  | normalize (type : Ty)
  | merge

def call (state : Elimination) : Call → Elimination × Except Failure (List EquationId)
  | .constrain left right => state.constrain left right
  | .step type => ((state.step type).1, (state.step type).2.map fun answer => answer.2.toList)
  | .normalize type => ((state.normalize type).1, (state.normalize type).2.map fun _ => [])
  | .merge => (state.merge.1, state.merge.2.map fun _ => [])

def Call.accepted : Call → Except Failure (List EquationId) → List (Ty × Ty)
  | .constrain left right, .ok _ => [(left, right)]
  | _, _ => []

/-- The state after calls, whether they succeed or fail, and the pairs that were accepted on the way. -/
def callAll (state : Elimination) : List Call → Elimination × List (Ty × Ty)
  | [] => (state, [])
  | call :: rest =>
    let (state, outcome) := state.call call
    let (state, accepted) := state.callAll rest
    (state, call.accepted outcome ++ accepted)

variable {assignment : Assignment}

theorem solves_constrain (state : Elimination) (left right : Ty) :
    assignment.Solves (state.constrain left right).1.equations ↔ assignment.Solves state.equations ∧
      assignment.Unifies (Call.accepted (.constrain left right) (state.constrain left right).2) := by
  cases hequate : left.equate right with
  | error mismatch => simp [constrain_of_error hequate, Call.accepted]
  | ok equations =>
    have hsolves := (Equations.describes_equate hequate).solves_iff assignment
    rw [constrain_of_ok hequate, equations_append, Assignment.solves_append, hsolves, Call.accepted]

/-- A call keeps the solutions, but for those that the pair it accepts rules out. -/
theorem solves_call (state : Elimination) (call : Call) :
    assignment.Solves (state.call call).1.equations ↔ assignment.Solves state.equations ∧
      assignment.Unifies (call.accepted (state.call call).2) := by
  cases call with
  | constrain left right => exact state.solves_constrain left right
  | step type => simp [Elimination.call, Call.accepted, equations_step]
  | normalize type => simp [Elimination.call, Call.accepted, equations_normalize]
  | merge =>
    have hmerge := Registry.solves_merge assignment state.registry state.ids
    simpa [Elimination.call, Call.accepted, merge, withEntries, equations] using hmerge

theorem solves_callAll (state : Elimination) (calls : List Call) :
    assignment.Solves (state.callAll calls).1.equations ↔
      assignment.Solves state.equations ∧ assignment.Unifies (state.callAll calls).2 := by
  induction calls generalizing state with
  | nil => simp [callAll]
  | cons call rest ih =>
    rw [callAll, ih, solves_call, and_assoc]
    simp [Assignment.Unifies, or_imp, forall_and]

/-- **Calls keep the meaning.** After any calls, failing ones among them, the stored equations are solved by
the assignments that solve the first equations and unify the accepted pairs. -/
theorem solves_callAll_start_iff (registry : Registry) (caller : List EquationId) (limit : Int)
    (listener : Option Listener) (calls : List Call) (assignment : Assignment) :
    let called := (start registry caller limit listener).callAll calls
    assignment.Solves called.1.equations ↔
      assignment.Solves (registry.select caller) ∧ assignment.Unifies called.2 := by
  rw [← equations_start registry caller limit listener]
  exact solves_callAll _ calls

/-- Merging stops where an id would be negative, with the second equation renamed on its left side only. -/
example :
    let state := start (Registry.empty.addAll [⟨-1, .var 3⟩, ⟨3, .pair (.var 3) .int⟩]).1 [0, 1] 0 none
    (state.callAll [.merge]).1.equations = [⟨-1, .var 3⟩, ⟨-1, .pair (.var 3) .int⟩] := rfl

end TypeEquations.Elimination
