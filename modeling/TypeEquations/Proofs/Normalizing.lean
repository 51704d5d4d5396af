import Mathlib.Data.List.Basic
import TypeEquations.Elimination
import TypeEquations.Proofs.Substitution

/-!
# Normalizing

Normalizing with a listener that never objects is a run of single substitutions. It comes to an end exactly
if its limit is not below the number of replacements in the unfolding of the type, and then with the unfolded
type; where the type reaches a variable that depends on itself it fails under every limit.
-/

namespace TypeEquations

namespace Equations

def run (equations : Equations) : Nat → Ty → List Step
  | 0, _ => []
  | bound + 1, type =>
    match Step.next? equations type with
    | none => []
    | some step => step :: equations.run bound step.after

def endOf (type : Ty) : List Step → Ty
  | [] => type
  | step :: rest => endOf step.after rest

variable {equations : Equations} {type result : Ty} {cost : Nat}

theorem next?_eq_none_iff : Step.next? equations type = none ↔ equations.isResolved type = true := by
  rw [Step.next?, Option.map_eq_none_iff, isResolved_iff_fired]

/-- A step is one of the replacements that an unfolding counts. -/
theorem unfolds_iff_of_next? {step : Step} (hnext : Step.next? equations type = some step) :
    equations.Unfolds type result cost ↔
      ∃ n, cost = n + 1 ∧ equations.Unfolds step.after result n := by
  obtain ⟨equation, hfired, rfl⟩ := Option.map_eq_some_iff.mp hnext
  exact unfolds_substitute_iff (by simp [hfired])

theorem length_run_le (bound : Nat) : (equations.run bound type).length ≤ bound := by
  induction bound generalizing type with
  | zero => exact Nat.le_refl 0
  | succ bound ih =>
    rw [run]
    split
    · exact Nat.zero_le _
    · exact Nat.succ_le_succ ih

/-- A run that leaves something to replace was stopped by its bound. -/
theorem length_run_of_not_isResolved {bound : Nat}
    (hunresolved : equations.isResolved (endOf type (equations.run bound type)) ≠ true) :
    (equations.run bound type).length = bound := by
  induction bound generalizing type with
  | zero => rfl
  | succ bound ih =>
    rw [run] at hunresolved ⊢
    split at hunresolved <;> rename_i hnext
    · exact absurd (next?_eq_none_iff.mp hnext) hunresolved
    · rw [List.length_cons, ih hunresolved]

/-- A run takes its length off the cost of unfolding. -/
theorem unfolds_iff_of_run (bound : Nat) :
    equations.Unfolds type result cost ↔ ∃ n, cost = n + (equations.run bound type).length ∧
      equations.Unfolds (endOf type (equations.run bound type)) result n := by
  induction bound generalizing type cost with
  | zero => simp [run, endOf]
  | succ bound ih =>
    rw [run]
    split <;> rename_i hnext
    · simp [endOf]
    · rw [unfolds_iff_of_next? hnext, endOf, List.length_cons]
      constructor
      · rintro ⟨_, rfl, hunfolds⟩
        obtain ⟨n, rfl, hrest⟩ := ih.mp hunfolds
        exact ⟨n, rfl, hrest⟩
      · rintro ⟨n, rfl, hunfolds⟩
        exact ⟨_, rfl, ih.mpr ⟨n, rfl, hunfolds⟩⟩

theorem Unfolds.eq_of_isResolved (h : equations.Unfolds type result cost)
    (hresolved : equations.isResolved type = true) : result = type ∧ cost = 0 :=
  h.unique (unfolds_self (isResolved_iff.mp hresolved))

theorem Unfolds.isResolved_of_zero (h : equations.Unfolds type result 0) :
    equations.isResolved type = true := by
  rw [← next?_eq_none_iff]
  cases hnext : Step.next? equations type with
  | none => rfl
  | some step =>
    obtain ⟨n, hzero, _⟩ := (unfolds_iff_of_next? hnext).mp h
    exact absurd hzero.symm (Nat.succ_ne_zero n)

/-- A run that may be long enough ends with the unfolded type. -/
theorem Unfolds.run_of_le (h : equations.Unfolds type result cost) {bound : Nat} (hle : cost ≤ bound) :
    endOf type (equations.run bound type) = result ∧ (equations.run bound type).length = cost ∧
      equations.isResolved result = true := by
  obtain ⟨n, hcost, hrest⟩ := (unfolds_iff_of_run bound).mp h
  by_cases hresolved : equations.isResolved (endOf type (equations.run bound type)) = true
  · obtain ⟨rfl, rfl⟩ := hrest.eq_of_isResolved hresolved
    exact ⟨rfl, by omega, hresolved⟩
  · have hlength := length_run_of_not_isResolved hresolved
    obtain rfl : n = 0 := by omega
    exact absurd hrest.isResolved_of_zero hresolved

/-- A run that is cut short, or that cannot end, has as many steps as it may. -/
theorem run_of_forall_lt {bound : Nat}
    (hlong : ∀ result cost, equations.Unfolds type result cost → bound < cost) :
    (equations.run bound type).length = bound ∧
      equations.isResolved (endOf type (equations.run bound type)) = false := by
  have hunresolved : equations.isResolved (endOf type (equations.run bound type)) ≠ true := by
    intro hresolved
    have hrest := unfolds_self (isResolved_iff.mp hresolved)
    have hlt := hlong _ _ ((unfolds_iff_of_run bound).mpr ⟨0, rfl, hrest⟩)
    have hle : (equations.run bound type).length ≤ bound := length_run_le bound
    omega
  exact ⟨length_run_of_not_isResolved hunresolved, by simpa using hunresolved⟩

end Equations

namespace Elimination

variable {state : Elimination} {type : Ty}

def Quiet (state : Elimination) : Prop :=
  ∀ listener, state.listener = some listener → ∀ heard, listener heard = none

def recorded (state : Elimination) (step : Step) : Elimination :=
  ((state.record step).1.announce step).1

theorem exists_heard_announce (state : Elimination) (step : Step) :
    ∃ heard, (state.announce step).1 = { state with heard } := by
  unfold announce
  split <;> exact ⟨_, rfl⟩

theorem Quiet.announce (hquiet : state.Quiet) (step : Step) : (state.announce step).2 = .ok () := by
  unfold Elimination.announce
  split
  · rfl
  · rename_i listener hlistener
    simp only [hquiet listener hlistener]

theorem equations_recorded (state : Elimination) (step : Step) :
    (state.recorded step).equations = state.equations := by
  obtain ⟨heard, hannounce⟩ := (state.record step).1.exists_heard_announce step
  rw [recorded, hannounce]
  exact state.equations_record step

theorem limit_recorded (state : Elimination) (step : Step) :
    (state.recorded step).limit = state.limit := by
  obtain ⟨heard, hannounce⟩ := (state.record step).1.exists_heard_announce step
  rw [recorded, hannounce]
  rfl

theorem Quiet.recorded (hquiet : state.Quiet) (step : Step) : (state.recorded step).Quiet := by
  obtain ⟨heard, hannounce⟩ := (state.record step).1.exists_heard_announce step
  rw [Elimination.recorded, hannounce]
  exact hquiet

theorem length_steps (state : Elimination) : state.steps.length = state.history.size := by
  have hsome : ∀ entry ∈ state.history.toList,
      ((state.registry.get? entry.equation).map (Step.mk · entry.before entry.after)).isSome = true := by
    intro entry hentry
    have hlt := state.history_lt entry (Array.mem_toList_iff.mp hentry)
    simp [Registry.get?, hlt]
  rw [steps, List.length_filterMap_eq_countP, List.countP_eq_length.mpr hsome, Array.length_toList]

/-- The numbers in the history lead to the equations to which they led before. -/
theorem steps_record (state : Elimination) (step : Step) :
    (state.record step).1.steps = state.steps ++ [step] := by
  have hold : ∀ entry ∈ state.history.toList,
      ((state.record step).1.registry.get? entry.equation).map (Step.mk · entry.before entry.after) =
        (state.registry.get? entry.equation).map (Step.mk · entry.before entry.after) := by
    intro entry hentry
    have hlt := state.history_lt entry (Array.mem_toList_iff.mp hentry)
    exact congrArg _ (Registry.get?_addAll_of_lt [step.equation] hlt)
  have hnew : (state.record step).1.registry.get? state.registry.entries.size = some step.equation := by
    simp [record, Registry.get?_add]
  have hhistory : (state.record step).1.history.toList =
      state.history.toList ++ [⟨state.registry.entries.size, step.before, step.after⟩] :=
    Array.toList_push
  rw [steps, hhistory, List.filterMap_append, List.filterMap_congr hold, List.filterMap_cons, hnew]
  rfl

theorem steps_recorded (state : Elimination) (step : Step) :
    (state.recorded step).steps = state.steps ++ [step] := by
  obtain ⟨heard, hannounce⟩ := (state.record step).1.exists_heard_announce step
  rw [recorded, hannounce]
  exact state.steps_record step

theorem step_of_next?_eq_none (hnext : Step.next? state.equations type = none) :
    state.step type = (state, .ok (type, none)) := by
  rw [step, hnext]

theorem step_of_next?_eq_some (hquiet : state.Quiet) {step : Step}
    (hnext : Step.next? state.equations type = some step) :
    state.step type = (state.recorded step, .ok (step.after, some state.registry.entries.size)) := by
  have hrecord : (state.record step).1.Quiet := hquiet
  have hannounce : (state.record step).1.announce step = (state.recorded step, .ok ()) :=
    Prod.ext rfl (hrecord.announce step)
  simp only [Elimination.step, hnext, hannounce]
  rfl

def replay (state : Elimination) (steps : List Step) : Elimination :=
  steps.foldl recorded state

/-- **The loop without objections.** It takes the run of its bound, and then it only looks whether anything is
left. -/
theorem normalizeWithin_of_quiet (hquiet : state.Quiet) (type : Ty) (bound : Nat) :
    state.normalizeWithin type bound =
      let steps := state.equations.run bound type
      let last := Equations.endOf type steps
      (state.replay steps,
        if state.isResolved last then .ok last else .error (.limitExceeded state.limit last)) := by
  induction bound generalizing state type with
  | zero =>
    rw [normalizeWithin]
    split <;> simp_all [Equations.run, Equations.endOf, replay]
  | succ bound ih =>
    rw [normalizeWithin, Equations.run]
    cases hnext : Step.next? state.equations type with
    | none =>
      have hresolved : state.isResolved type = true := Equations.next?_eq_none_iff.mp hnext
      simp [step_of_next?_eq_none hnext, Equations.endOf, replay, hresolved]
    | some step =>
      rw [step_of_next?_eq_some hquiet hnext]
      have hrest := ih (hquiet.recorded step) step.after
      simp only [equations_recorded, limit_recorded, isResolved] at hrest ⊢
      exact hrest

theorem steps_replay (state : Elimination) (steps : List Step) :
    (state.replay steps).steps = state.steps ++ steps := by
  induction steps generalizing state with
  | nil => exact (List.append_nil _).symm
  | cons step rest ih =>
    have hrest := ih (state.recorded step)
    rw [steps_recorded, List.append_assoc] at hrest
    exact hrest

/-- The history has gone on by these steps, with an entry for each. -/
def Extends (state' state : Elimination) (steps : List Step) : Prop :=
  state'.steps = state.steps ++ steps ∧ state'.history.size = state.history.size + steps.length

theorem extends_replay (state : Elimination) (steps : List Step) :
    (state.replay steps).Extends state steps := by
  have hsteps := state.steps_replay steps
  refine ⟨hsteps, ?_⟩
  rw [← length_steps, ← length_steps, hsteps, List.length_append]

theorem extends_normalize (hquiet : state.Quiet) (type : Ty) :
    (state.normalize type).1.Extends state (state.equations.run state.limit.toNat type) := by
  rw [normalize, normalizeWithin_of_quiet hquiet]
  exact extends_replay ..

/-- A limit that covers the cost is enough. -/
theorem normalize_of_cost_le (hquiet : state.Quiet) {result : Ty} {cost : Nat}
    (hunfolds : state.equations.Unfolds type result cost) (hle : cost ≤ state.limit.toNat) :
    ∃ steps, (state.normalize type).1.Extends state steps ∧ steps.length = cost ∧
      (state.normalize type).2 = .ok result := by
  obtain ⟨hend, hlength, hresolved⟩ := hunfolds.run_of_le hle
  refine ⟨_, extends_normalize hquiet type, hlength, ?_⟩
  rw [normalize, normalizeWithin_of_quiet hquiet]
  simp only [hend, isResolved, hresolved, if_true]

/-- A limit below all costs is used up. -/
theorem normalize_of_forall_limit_lt (hquiet : state.Quiet)
    (hlong : ∀ result cost, state.equations.Unfolds type result cost → state.limit.toNat < cost) :
    ∃ steps, (state.normalize type).1.Extends state steps ∧ steps.length = state.limit.toNat ∧
      (state.normalize type).2 = .error (.limitExceeded state.limit (Equations.endOf type steps)) := by
  obtain ⟨hlength, hunresolved⟩ := Equations.run_of_forall_lt hlong
  refine ⟨_, extends_normalize hquiet type, hlength, ?_⟩
  rw [normalize, normalizeWithin_of_quiet hquiet]
  simp only [isResolved, hunresolved, Bool.false_eq_true, if_false]

/-- Where no unfolding ends, the limit is used up, whatever it is. -/
theorem normalize_of_not_acyclicFrom (hquiet : state.Quiet)
    (hcyclic : ¬ state.equations.AcyclicFrom type) :
    ∃ steps, (state.normalize type).1.Extends state steps ∧ steps.length = state.limit.toNat ∧
      (state.normalize type).2 = .error (.limitExceeded state.limit (Equations.endOf type steps)) := by
  apply normalize_of_forall_limit_lt hquiet
  intro result cost hunfolds
  exact absurd hunfolds.acyclicFrom hcyclic

theorem acyclicFrom_of_normalize_eq_ok (hquiet : state.Quiet) {result : Ty}
    (hok : (state.normalize type).2 = .ok result) : state.equations.AcyclicFrom type := by
  by_contra hcyclic
  obtain ⟨steps, _, _, herror⟩ := normalize_of_not_acyclicFrom hquiet hcyclic
  rw [herror] at hok
  cases hok

/-- Some limit is enough just when the type leads into no cycle. -/
theorem exists_normalize_eq_ok_iff (hquiet : state.Quiet) :
    (∃ (limit : Int) (result : Ty), ({ state with limit }.normalize type).2 = .ok result) ↔
      state.equations.AcyclicFrom type := by
  constructor
  · rintro ⟨limit, result, hok⟩
    have hquiet' : { state with limit }.Quiet := hquiet
    have hacyclic := acyclicFrom_of_normalize_eq_ok hquiet' hok
    exact hacyclic
  · intro hacyclic
    obtain ⟨result, cost, hunfolds⟩ := Equations.exists_unfolds_of_acyclicFrom hacyclic
    have hquiet' : { state with limit := cost }.Quiet := hquiet
    obtain ⟨_, _, _, hok⟩ := normalize_of_cost_le hquiet' hunfolds (Int.toNat_natCast cost).ge
    exact ⟨cost, result, hok⟩

/-- **Termination and step count.** If the variables that the type reaches do not depend on themselves, the
type is normalized under exactly the limits that are not below the cost of unfolding it, in that many steps.
In all other cases the limit is used up and exceeded. -/
theorem normalize_eq_ok_iff_cost_le (state : Elimination) (hquiet : state.Quiet) (type : Ty) :
    (state.equations.AcyclicFrom type →
      ∃ result cost, state.equations.Unfolds type result cost ∧
        (∀ result' cost', state.equations.Unfolds type result' cost' →
          result' = result ∧ cost' = cost) ∧
        ∃ steps, (state.normalize type).1.Extends state steps ∧
          (cost ≤ state.limit.toNat → steps.length = cost ∧ (state.normalize type).2 = .ok result) ∧
          (state.limit.toNat < cost → steps.length = state.limit.toNat ∧
            (state.normalize type).2 =
              .error (.limitExceeded state.limit (Equations.endOf type steps)))) ∧
    (¬ state.equations.AcyclicFrom type →
      ∃ steps, (state.normalize type).1.Extends state steps ∧ steps.length = state.limit.toNat ∧
        (state.normalize type).2 =
          .error (.limitExceeded state.limit (Equations.endOf type steps))) ∧
    ((∃ (limit : Int) (result : Ty), ({ state with limit }.normalize type).2 = .ok result) ↔
      state.equations.AcyclicFrom type) := by
  refine ⟨?_, normalize_of_not_acyclicFrom hquiet, exists_normalize_eq_ok_iff hquiet⟩
  intro hacyclic
  obtain ⟨result, cost, hunfolds⟩ := Equations.exists_unfolds_of_acyclicFrom hacyclic
  have hunique : ∀ result' cost', state.equations.Unfolds type result' cost' →
      result' = result ∧ cost' = cost := by
    intro result' cost' hunfolds'
    exact hunfolds'.unique hunfolds
  refine ⟨result, cost, hunfolds, hunique, ?_⟩
  by_cases hle : cost ≤ state.limit.toNat
  · obtain ⟨steps, hextends, hlength, hok⟩ := normalize_of_cost_le hquiet hunfolds hle
    refine ⟨steps, hextends, fun _ => ⟨hlength, hok⟩, ?_⟩
    intro hlt
    exact absurd hle (Nat.not_le.mpr hlt)
  · have hlong : ∀ result' cost', state.equations.Unfolds type result' cost' →
        state.limit.toNat < cost' := by
      intro result' cost' hunfolds'
      obtain ⟨rfl, rfl⟩ := hunique result' cost' hunfolds'
      exact Nat.not_le.mp hle
    obtain ⟨steps, hextends, hlength, herror⟩ := normalize_of_forall_limit_lt hquiet hlong
    refine ⟨steps, hextends, ?_, fun _ => ⟨hlength, herror⟩⟩
    intro hle'
    exact absurd hle' hle

/-- A limit of three is just enough for a pair whose parts share an equation, and no help against a cycle on
the right. -/
theorem normalize_eq_ok_iff_cost_le_of_pair :
    let equations : List Equation := [⟨0, .pair (.var 1) (.var 1)⟩, ⟨1, .int⟩, ⟨2, .fn .int (.var 2)⟩]
    let state := start (Registry.empty.addAll equations).1 [0, 1, 2] 3 none
    (state.normalize (.var 0)).2 = .ok (.pair .int .int) ∧
      ∃ last, (state.normalize (.fn (.var 0) (.var 2))).2 = .error (.limitExceeded 3 last) := by
  intro equations state
  have hquiet : state.Quiet := nofun
  have hint : state.equations.Unfolds (.var 1) .int 1 := .defined rfl .int
  have hpair : state.equations.Unfolds (.var 0) (.pair .int .int) 3 := .defined rfl (.pair hint hint)
  have hcyclic : ¬ state.equations.AcyclicFrom (.fn (.var 0) (.var 2)) := fun hacyclic =>
    hacyclic 2 ⟨2, by decide, .refl⟩ (.single ⟨⟨2, .fn .int (.var 2)⟩, rfl, by decide⟩)
  constructor
  · obtain ⟨result, cost, _, hunique, _, _, hok, _⟩ :=
      (normalize_eq_ok_iff_cost_le state hquiet (.var 0)).1 hpair.acyclicFrom
    obtain ⟨rfl, rfl⟩ := hunique _ _ hpair
    exact (hok (by decide)).2
  · obtain ⟨_, _, _, herror⟩ :=
      (normalize_eq_ok_iff_cost_le state hquiet (.fn (.var 0) (.var 2))).2.1 hcyclic
    exact ⟨_, herror⟩

end Elimination

end TypeEquations
