import TypeEquations.Proofs.Listening

/-!
# Runs in step

Two eliminations go in step where the next substitution of one is the image of the next substitution of the
other, and the listeners say the same of them. Then whole runs are images of each other, with their histories
and outcomes.
-/

namespace TypeEquations.Elimination

variable {state state' : Elimination} {onType : Ty → Ty} {onStep : Step → Step} {follows : Ty → Prop}
  {type : Ty}

def mapOutcome (onType : Ty → Ty) : Except Failure Ty → Except Failure Ty
  | .ok type => .ok (onType type)
  | .error (.limitExceeded limit last) => .error (.limitExceeded limit (onType last))
  | .error failure => .error failure

theorem mapOutcome_id (outcome : Except Failure Ty) : mapOutcome id outcome = outcome := by
  rcases outcome with (_ | _ | _ | _) | _ <;> rfl

def stepAnswer (state : Elimination) (type : Ty) : Except Failure (Ty × Option Equation) :=
  (state.step type).2.map fun answer =>
    (answer.1, answer.2.bind (state.step type).1.registry.get?)

theorem stepAnswer_of_next?_eq_none (hnext : Step.next? state.equations type = none) :
    state.stepAnswer type = .ok (type, none) := by
  rw [stepAnswer, step_of_next?_eq_none hnext]
  rfl

theorem stepAnswer_of_next?_eq_some {step : Step}
    (hnext : Step.next? state.equations type = some step) :
    state.stepAnswer type =
      unlessObjection (state.objection? [step]) (.ok (step.after, some step.equation)) := by
  have hget : (state.recorded step).registry.get? state.registry.entries.size = some step.equation := by
    rw [registry_recorded, Registry.get?_add, if_pos rfl]
  rw [stepAnswer, step_of_next? hnext]
  cases state.objection? [step] with
  | none => exact congrArg (fun equation => Except.ok (step.after, equation)) hget
  | some text => rfl

/-- From the types that are followed the second elimination does what the first one does, read as `onType`
and `onStep` say. -/
structure InStep (state state' : Elimination) (onType : Ty → Ty) (onStep : Step → Step)
    (follows : Ty → Prop) : Prop where
  next?_eq : ∀ type, follows type →
    Step.next? state'.equations (onType type) = (Step.next? state.equations type).map onStep
  follows_after : ∀ type step, follows type → Step.next? state.equations type = some step →
    follows step.after
  after_eq : ∀ step, (onStep step).after = onType step.after
  objection?_eq : ∀ steps, state'.objection? (steps.map onStep) = state.objection? steps

/-- A step taken by both leaves both in step. -/
theorem InStep.recorded (h : state.InStep state' onType onStep follows) (step : Step) :
    (state.recorded step).InStep (state'.recorded (onStep step)) onType onStep follows where
  next?_eq := by
    rw [equations_recorded, equations_recorded]
    exact h.next?_eq
  follows_after := by
    rw [equations_recorded]
    exact h.follows_after
  after_eq := h.after_eq
  objection?_eq steps := by
    rw [objection?_recorded, objection?_recorded, ← List.map_cons]
    exact h.objection?_eq (step :: steps)

theorem InStep.isResolved_eq (h : state.InStep state' onType onStep follows) (htype : follows type) :
    state'.isResolved (onType type) = state.isResolved type := by
  rw [isResolved, isResolved, Bool.eq_iff_iff, ← Equations.next?_eq_none_iff, ← Equations.next?_eq_none_iff,
    h.next?_eq type htype, Option.map_eq_none_iff]

theorem InStep.exists_replay_step (h : state.InStep state' onType onStep follows) (htype : follows type) :
    ∃ steps, (state.step type).1 = state.replay steps ∧
      (state'.step (onType type)).1 = state'.replay (steps.map onStep) := by
  have hnext' := h.next?_eq type htype
  cases hnext : Step.next? state.equations type with
  | none =>
    rw [hnext, Option.map_none] at hnext'
    rw [step_of_next?_eq_none hnext, step_of_next?_eq_none hnext']
    exact ⟨[], rfl, rfl⟩
  | some step =>
    rw [hnext, Option.map_some] at hnext'
    rw [step_of_next? hnext, step_of_next? hnext']
    exact ⟨[step], rfl, rfl⟩

/-- Induction on the number of steps that are still allowed; the recorded states go in step again. -/
theorem InStep.exists_replay_normalizeWithin (h : state.InStep state' onType onStep follows)
    (hlimit : state'.limit = state.limit) (htype : follows type) (bound : Nat) :
    ∃ steps, (state.normalizeWithin type bound).1 = state.replay steps ∧
      (state'.normalizeWithin (onType type) bound).1 = state'.replay (steps.map onStep) ∧
      (state'.normalizeWithin (onType type) bound).2 =
        mapOutcome onType (state.normalizeWithin type bound).2 := by
  induction bound generalizing state state' type with
  | zero =>
    refine ⟨[], ?_⟩
    rw [normalizeWithin, normalizeWithin, h.isResolved_eq htype, hlimit]
    split <;> exact ⟨rfl, rfl, rfl⟩
  | succ bound ih =>
    have hnext' := h.next?_eq type htype
    rw [normalizeWithin, normalizeWithin]
    cases hnext : Step.next? state.equations type with
    | none =>
      rw [hnext, Option.map_none] at hnext'
      rw [step_of_next?_eq_none hnext, step_of_next?_eq_none hnext']
      exact ⟨[], rfl, rfl, rfl⟩
    | some step =>
      rw [hnext, Option.map_some] at hnext'
      have hobjection : state'.objection? [onStep step] = state.objection? [step] :=
        h.objection?_eq [step]
      rw [step_of_next? hnext, step_of_next? hnext', hobjection]
      cases state.objection? [step] with
      | some text => exact ⟨[step], rfl, rfl, rfl⟩
      | none =>
        have hlimit' : (state'.recorded (onStep step)).limit = (state.recorded step).limit := by
          rw [limit_recorded, limit_recorded, hlimit]
        obtain ⟨rest, hstate, hstate', houtcome⟩ :=
          ih (h.recorded step) hlimit' (h.follows_after type step htype hnext)
        refine ⟨step :: rest, hstate, ?_⟩
        simp only [unlessObjection, h.after_eq]
        exact ⟨hstate', houtcome⟩

end TypeEquations.Elimination
