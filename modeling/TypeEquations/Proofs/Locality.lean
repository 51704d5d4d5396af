import TypeEquations.Proofs.Lockstep
import TypeEquations.Proofs.Position

/-!
# What a run looks at

Substitutions in a type look up the variables that the type reaches, and of the equations found only the
right sides matter. Two lists that agree there cannot be told apart by any run from that type, whatever else
they hold and in whatever order.
-/

namespace TypeEquations

/-- Substitution asks only for the first equations of variables that occur. -/
theorem Ty.substitute_congr {equations equations' : Equations} {type : Ty}
    (hsame : ∀ x ∈ type.occurrences, equations.lookup? x = equations'.lookup? x) :
    type.substitute equations = type.substitute equations' := by
  induction type with
  | fn left right ihl ihr | pair left right ihl ihr =>
    rw [occurrences, List.forall_mem_append] at hsame
    rw [substitute, substitute, ihl hsame.1, ihr hsame.2]
  | var x => rw [substitute, substitute, hsame x (List.mem_singleton_self x)]
  | bool | int => rfl

namespace Equations

/-- For each variable that the type reaches by the first list, both lists have a first equation with the same
right side, or neither has any. -/
def AgreeFrom (equations equations' : Equations) (type : Ty) : Prop :=
  ∀ x, equations.Reaches type x →
    (equations.lookup? x).map (·.rhs) = (equations'.lookup? x).map (·.rhs)

variable {equations equations' : Equations} {type : Ty} {step : Step} {x : Nat}

theorem reaches_of_mem (hx : x ∈ type.occurrences) : equations.Reaches type x :=
  ⟨x, hx, .refl⟩

/-- The new variables after a substitution are those on which the replaced one depends. -/
theorem reaches_of_after (hnext : Step.next? equations type = some step)
    (hreaches : equations.Reaches step.after x) : equations.Reaches type x := by
  obtain ⟨equation, hfired, rfl⟩ := Option.map_eq_some_iff.mp hnext
  obtain ⟨position, y, hpart, hfound, htype⟩ := Ty.exists_replace_of_fired hfired
  obtain ⟨z, hz, hpath⟩ := hreaches
  rw [htype] at hz
  rcases Ty.mem_occurrences_of_replace hz with hold | hnew
  · exact ⟨z, hold, hpath⟩
  · exact ⟨y, Ty.mem_occurrences_of_part? hpart, hpath.head ⟨equation, hfound, hnew⟩⟩

namespace AgreeFrom

/-- The variable of an equation that was looked up is known, so the whole equations are the same. -/
theorem lookup?_eq (h : equations.AgreeFrom equations' type) (hx : equations.Reaches type x) :
    equations.lookup? x = equations'.lookup? x := by
  have hrhs := h x hx
  cases hfound : equations.lookup? x with
  | none =>
    rw [hfound, Option.map_none, eq_comm, Option.map_eq_none_iff] at hrhs
    exact hrhs.symm
  | some equation =>
    rw [hfound, Option.map_some, eq_comm] at hrhs
    obtain ⟨equation', hfound', hsame⟩ := Option.map_eq_some_iff.mp hrhs
    have hvar : equation'.var = equation.var := by
      rw [var_of_lookup? hfound, var_of_lookup? hfound']
    obtain ⟨var, rhs⟩ := equation
    obtain ⟨var', rhs'⟩ := equation'
    obtain rfl : rhs' = rhs := hsame
    obtain rfl : var' = var := hvar
    exact hfound'.symm

theorem next?_eq (h : equations.AgreeFrom equations' type) :
    Step.next? equations' type = Step.next? equations type := by
  rw [Step.next?, Step.next?, Ty.substitute_congr fun x hx => h.lookup?_eq (reaches_of_mem hx)]

/-- A step leads only to variables that were reached before it, so that the lists go on to agree. -/
theorem after (h : equations.AgreeFrom equations' type) (hnext : Step.next? equations type = some step) :
    equations.AgreeFrom equations' step.after := by
  intro x hreaches
  exact h x (reaches_of_after hnext hreaches)

end AgreeFrom

theorem agreeFrom_of_lookup? (hsame : ∀ x, equations.Reaches type x →
    equations.lookup? x = equations'.lookup? x) : equations.AgreeFrom equations' type := by
  intro x hreaches
  rw [hsame x hreaches]

/-! ### Lists that agree -/

variable {before between after : Equations}

theorem lookup?_of_ne {y : Int} (hne : ∀ equation ∈ between, equation.var ≠ y) :
    lookup? (before ++ between ++ after) y = lookup? (before ++ after) y := by
  have hnone : between.find? (·.var = y) = none := by
    rw [List.find?_eq_none]
    intro equation hequation
    simpa using hne equation hequation
  rw [lookup?, lookup?, List.append_assoc, List.find?_append, List.find?_append, List.find?_append, hnone,
    Option.none_or]

/-- An equation is shadowed where its variable has one in front of it. -/
theorem lookup?_of_shadowed (hshadowed : ∀ equation ∈ between, ∃ first ∈ before, first.var = equation.var)
    (y : Int) : lookup? (before ++ between ++ after) y = lookup? (before ++ after) y := by
  by_cases hfirst : ∃ first ∈ before, first.var = y
  · obtain ⟨first, hmem, hvar⟩ := hfirst
    have hsome : (before.find? (·.var = y)).isSome = true := by
      rw [List.find?_isSome]
      exact ⟨first, hmem, by simpa using hvar⟩
    rw [lookup?, lookup?, List.append_assoc, List.find?_append, Option.or_of_isSome hsome,
      List.find?_append, Option.or_of_isSome hsome]
  · apply lookup?_of_ne
    rintro equation hequation rfl
    exact hfirst (hshadowed equation hequation)

theorem lookup?_of_filter {y : Int}
    (hfilter : equations.filter (·.var = y) = equations'.filter (·.var = y)) :
    equations.lookup? y = equations'.lookup? y := by
  rw [lookup?, lookup?, ← List.head?_filter, ← List.head?_filter, hfilter]

end Equations

namespace Elimination

variable {state state' : Elimination} {type : Ty}

def SameObjections (state state' : Elimination) : Prop :=
  ∀ steps, state'.objection? steps = state.objection? steps

/-- From the type on nothing tells the two apart: neither whether it is resolved, nor a step, nor its
normalization under any limit, nor what these add to the history. -/
structure SameRuns (state state' : Elimination) (type : Ty) : Prop where
  resolved : state.isResolved type = state'.isResolved type
  step : state.stepAnswer type = state'.stepAnswer type ∧
    ∃ steps, (state.step type).1.Extends state steps ∧ (state'.step type).1.Extends state' steps
  normalize : ∀ limit : Int,
    ({ state with limit }.normalize type).2 = ({ state' with limit }.normalize type).2 ∧
    ∃ steps, ({ state with limit }.normalize type).1.Extends state steps ∧
      ({ state' with limit }.normalize type).1.Extends state' steps

/-- Eliminations whose equations agree from a type on stay in step from there. -/
theorem inStep_of_agreeFrom (hobjections : state.SameObjections state') :
    state.InStep state' id id (state.equations.AgreeFrom state'.equations) where
  next?_eq type hagree := by
    rw [Option.map_id_fun]
    exact hagree.next?_eq
  follows_after _ _ hagree hnext := hagree.after hnext
  after_eq _ := rfl
  objection?_eq steps := by
    rw [List.map_id]
    exact hobjections steps

theorem SameRuns.of_agreeFrom (hobjections : state.SameObjections state')
    (hagree : state.equations.AgreeFrom state'.equations type) : state.SameRuns state' type := by
  have hinStep := inStep_of_agreeFrom hobjections
  refine ⟨(hinStep.isResolved_eq hagree).symm, ⟨?_, ?_⟩, fun limit => ?_⟩
  · have hnext := hagree.next?_eq
    cases hcase : Step.next? state.equations type with
    | none =>
      rw [hcase] at hnext
      rw [stepAnswer_of_next?_eq_none hcase, stepAnswer_of_next?_eq_none hnext]
    | some step =>
      have hobjection : state'.objection? [step] = state.objection? [step] := hinStep.objection?_eq [step]
      rw [hcase] at hnext
      rw [stepAnswer_of_next?_eq_some hcase, stepAnswer_of_next?_eq_some hnext, hobjection]
  · obtain ⟨steps, hstate, hstate'⟩ := hinStep.exists_replay_step hagree
    rw [List.map_id] at hstate'
    refine ⟨steps, hstate ▸ extends_replay state steps, ?_⟩
    exact hstate' ▸ extends_replay state' steps
  · have hinStep' : { state with limit }.InStep { state' with limit } id id
        (state.equations.AgreeFrom state'.equations) := inStep_of_agreeFrom hobjections
    obtain ⟨steps, hstate, hstate', houtcome⟩ :=
      hinStep'.exists_replay_normalizeWithin rfl hagree limit.toNat
    rw [mapOutcome_id] at houtcome
    rw [List.map_id] at hstate'
    refine ⟨houtcome.symm, steps, ?_, ?_⟩
    · rw [Elimination.normalize, hstate]
      exact extends_replay { state with limit } steps
    · rw [Elimination.normalize]
      exact hstate' ▸ extends_replay { state' with limit } steps

/-- **Only first equations of reached variables matter.** So it makes no difference to any run from a type
whether there are shadowed equations, or equations for variables that it does not reach, or in what order
equations for different variables stand. -/
theorem sameRuns_of_agreeFrom (state state' : Elimination) (hobjections : state.SameObjections state')
    (type : Ty) :
    (state.equations.AgreeFrom state'.equations type → state.SameRuns state' type) ∧
    (∀ before shadowed after : Equations, state.equations = before ++ shadowed ++ after →
      state'.equations = before ++ after →
      (∀ equation ∈ shadowed, ∃ first ∈ before, first.var = equation.var) →
      state.SameRuns state' type) ∧
    (∀ before unreached after : Equations, state.equations = before ++ unreached ++ after →
      state'.equations = before ++ after →
      (∀ equation ∈ unreached, ∀ x, state.equations.Reaches type x → equation.var ≠ x) →
      state.SameRuns state' type) ∧
    ((∀ y : Int, state.equations.filter (·.var = y) = state'.equations.filter (·.var = y)) →
      state.SameRuns state' type) := by
  refine ⟨SameRuns.of_agreeFrom hobjections, ?_, ?_, ?_⟩
  · intro before shadowed after hlong hshort hshadowed
    apply SameRuns.of_agreeFrom hobjections
    apply Equations.agreeFrom_of_lookup?
    intro x _
    rw [hlong, hshort]
    exact Equations.lookup?_of_shadowed hshadowed x
  · intro before unreached after hlong hshort hunreached
    apply SameRuns.of_agreeFrom hobjections
    apply Equations.agreeFrom_of_lookup?
    intro x hreaches
    have hne : ∀ equation ∈ unreached, equation.var ≠ x := fun equation hmem =>
      hunreached equation hmem x hreaches
    rw [hlong, hshort]
    exact Equations.lookup?_of_ne hne
  · intro hfilter
    apply SameRuns.of_agreeFrom hobjections
    apply Equations.agreeFrom_of_lookup?
    intro x _
    exact Equations.lookup?_of_filter (hfilter x)

/-- Between these two lists a second equation for `0` and one for `5` came, and the first two changed places. -/
theorem sameRuns_of_agreeFrom_of_three_changes :
    let few : List Equation := [⟨1, .bool⟩, ⟨0, .pair (.var 1) (.var 4)⟩]
    let many : List Equation :=
      [⟨0, .pair (.var 1) (.var 4)⟩, ⟨1, .bool⟩, ⟨5, .fn (.var 5) .int⟩, ⟨0, .int⟩]
    let state := start (Registry.empty.addAll few).1 [0, 1] 7 (some fun _ => none)
    let state' := start (Registry.empty.addAll many).1 [0, 1, 2, 3] 0 (some fun _ => none)
    let type : Ty := .fn (.var 0) (.pair .int (.var 1))
    state.equations.AgreeFrom state'.equations type ∧ state.SameRuns state' type := by
  intro few many state state' type
  have hagree : state.equations.AgreeFrom state'.equations type := by
    have hreached : ∀ x, state.equations.Reaches type x → x = 0 ∨ x = 1 ∨ x = 4 := by
      rintro x ⟨y, hy, hpath⟩
      induction hpath with
      | refl =>
        have hmem : y ∈ [0, 1] := hy
        simp at hmem
        omega
      | tail _ hstep ih =>
        obtain ⟨equation, hfound, hx⟩ := hstep
        rcases ih with rfl | rfl | rfl
        · cases hfound
          have hmem : _ ∈ [1, 4] := hx
          simp at hmem
          omega
        · cases hfound
          cases hx
        · cases hfound
    intro x hx
    rcases hreached x hx with rfl | rfl | rfl <;> rfl
  exact ⟨hagree, (sameRuns_of_agreeFrom state state' (fun _ => rfl) type).1 hagree⟩

end Elimination

end TypeEquations
