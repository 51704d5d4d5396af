import TypeEquations.Proofs.Listening
import TypeEquations.Proofs.Position

/-!
# Derivations

What normalizing records is a derivation: a chain of substitutions from the type to the outcome, of which a
solution of the equations sees nothing. The outcome has no variable with an equation and is normalized itself.
-/

namespace TypeEquations

def Step.Chain (first : Ty) : List Step → Ty → Prop
  | [], last => last = first
  | step :: rest, last => step.before = first ∧ Step.Chain step.after rest last

namespace Equations

variable {equations : Equations} {assignment : Assignment} {type first last : Ty} {step : Step}
  {steps : List Step}

theorem before_of_next? (hnext : Step.next? equations type = some step) : step.before = type := by
  obtain ⟨equation, _, rfl⟩ := Option.map_eq_some_iff.mp hnext
  rfl

theorem next?_before (hnext : Step.next? equations type = some step) :
    Step.next? equations step.before = some step := by
  rwa [before_of_next? hnext]

/-- The steps of a run go on from one another. -/
theorem chain_run (bound : Nat) :
    Step.Chain type (equations.run bound type) (endOf type (equations.run bound type)) := by
  induction bound generalizing type with
  | zero => exact rfl
  | succ bound ih =>
    rw [run]
    split <;> rename_i hnext
    · exact rfl
    · exact ⟨before_of_next? hnext, ih⟩

theorem next?_of_mem_run {bound : Nat} (hmem : step ∈ equations.run bound type) :
    Step.next? equations step.before = some step := by
  induction bound generalizing type with
  | zero => simp [run] at hmem
  | succ bound ih =>
    rw [run] at hmem
    split at hmem <;> rename_i hnext
    · simp at hmem
    · rcases List.mem_cons.mp hmem with rfl | hmem
      · exact next?_before hnext
      · exact ih hmem

/-- A solution cannot tell the type after a step from the type before it. -/
theorem image_after (hsolves : assignment.Solves equations)
    (hnext : Step.next? equations step.before = some step) :
    step.after.image assignment = step.before.image assignment := by
  obtain ⟨equation, hfired, hstep⟩ := Option.map_eq_some_iff.mp hnext
  obtain ⟨_, x, _, hfound, _⟩ := Ty.exists_replace_of_fired hfired
  have himage := Ty.image_substitute hfired (hsolves equation (mem_of_lookup? hfound))
  rwa [← congrArg Step.after hstep]

/-- A step brings in no variables but those of right sides. -/
theorem mem_occurrences_of_after {x : Nat} (hnext : Step.next? equations step.before = some step)
    (hx : x ∈ step.after.occurrences) :
    x ∈ step.before.occurrences ∨ ∃ equation ∈ equations, x ∈ equation.rhs.occurrences := by
  obtain ⟨equation, hfired, hstep⟩ := Option.map_eq_some_iff.mp hnext
  obtain ⟨_, _, _, hfound, htype⟩ := Ty.exists_replace_of_fired hfired
  rw [← congrArg Step.after hstep, htype] at hx
  rcases Ty.mem_occurrences_of_replace hx with hx | hx
  · exact .inl hx
  · exact .inr ⟨equation, mem_of_lookup? hfound, hx⟩

/-- A solution sees no difference between the types along a chain of substitutions. -/
theorem image_chain (hsolves : assignment.Solves equations)
    (hnext : ∀ step ∈ steps, Step.next? equations step.before = some step)
    (hchain : Step.Chain first steps last) :
    (∀ step ∈ steps, step.before.image assignment = first.image assignment ∧
      step.after.image assignment = first.image assignment) ∧
    last.image assignment = first.image assignment := by
  induction steps generalizing first with
  | nil =>
    obtain rfl : last = first := hchain
    simp
  | cons step rest ih =>
    obtain ⟨rfl, hchain⟩ := hchain
    obtain ⟨hstep, hrest⟩ := List.forall_mem_cons.mp hnext
    have hafter := image_after hsolves hstep
    obtain ⟨hsteps, hlast⟩ := ih hrest hchain
    rw [hafter] at hsteps hlast
    exact ⟨List.forall_mem_cons.mpr ⟨⟨rfl, hafter⟩, hsteps⟩, hlast⟩

/-- No variables come up along a chain but those of the right sides. -/
theorem mem_occurrences_of_chain {x : Nat}
    (hnext : ∀ step ∈ steps, Step.next? equations step.before = some step)
    (hchain : Step.Chain first steps last) (hx : x ∈ last.occurrences) :
    x ∈ first.occurrences ∨ ∃ equation ∈ equations, x ∈ equation.rhs.occurrences := by
  induction steps generalizing first with
  | nil =>
    obtain rfl : last = first := hchain
    exact .inl hx
  | cons step rest ih =>
    obtain ⟨rfl, hchain⟩ := hchain
    obtain ⟨hstep, hrest⟩ := List.forall_mem_cons.mp hnext
    rcases ih hrest hchain with hx | hright
    · exact mem_occurrences_of_after hstep hx
    · exact .inr hright

end Equations

namespace Elimination

variable {state : Elimination} {type : Ty}

/-- A type without variables to replace is normalized as it is, under any limit and with any listener. -/
theorem normalize_of_isResolved (hresolved : state.isResolved type = true) :
    state.normalize type = (state, .ok type) := by
  rw [normalize]
  cases state.limit.toNat with
  | zero => rw [normalizeWithin, if_pos hresolved]
  | succ bound => rw [normalizeWithin, step_of_next?_eq_none (Equations.next?_eq_none_iff.mpr hresolved)]

/-- **Normalizing is derivation.** The steps recorded are substitutions by first equations, chained from the
type to the outcome or to the last type under the limit, and no solution of the equations sees them. A type
returned has no variable with an equation and no new one, and normalizing it once more changes nothing. -/
theorem normalize_derives (state : Elimination) (hquiet : state.Quiet) (type : Ty) :
    ∃ steps last,
      (state.normalize type).1.Extends state steps ∧ Step.Chain type steps last ∧
      (∀ step ∈ steps, Step.next? state.equations step.before = some step) ∧
      ((state.normalize type).2 = .ok last ∨
        (state.normalize type).2 = .error (.limitExceeded state.limit last)) ∧
      (∀ assignment : Assignment, assignment.Solves state.equations →
        (∀ step ∈ steps, step.before.image assignment = type.image assignment ∧
          step.after.image assignment = type.image assignment) ∧
        last.image assignment = type.image assignment) ∧
      ((state.normalize type).2 = .ok last →
        (∀ x ∈ last.occurrences, (∀ equation ∈ state.equations, equation.var ≠ x) ∧
          (x ∈ type.occurrences ∨ ∃ equation ∈ state.equations, x ∈ equation.rhs.occurrences)) ∧
        ∀ limit : Int, { (state.normalize type).1 with limit }.normalize last =
          ({ (state.normalize type).1 with limit }, .ok last)) := by
  have hextends := extends_normalize hquiet type
  have houtcome := congrArg Prod.snd (normalizeWithin_of_quiet hquiet type state.limit.toNat)
  set steps := state.equations.run state.limit.toNat type
  set last := Equations.endOf type steps
  have hchain : Step.Chain type steps last := Equations.chain_run _
  have hnext : ∀ step ∈ steps, Step.next? state.equations step.before = some step :=
    fun _ hmem => Equations.next?_of_mem_run hmem
  refine ⟨steps, last, hextends, hchain, hnext, ?_, ?_, ?_⟩
  · by_cases hresolved : state.isResolved last = true
    · exact .inl (houtcome.trans (if_pos hresolved))
    · exact .inr (houtcome.trans (if_neg hresolved))
  · intro assignment hsolves
    exact Equations.image_chain hsolves hnext hchain
  · intro hok
    have hresolved : state.isResolved last = true := by
      by_contra hunresolved
      have herror := houtcome.trans (if_neg hunresolved)
      rw [normalize] at hok
      rw [hok] at herror
      cases herror
    refine ⟨fun x hx => ⟨?_, Equations.mem_occurrences_of_chain hnext hchain hx⟩, fun limit => ?_⟩
    · exact Equations.lookup?_eq_none_iff.mp (Equations.isResolved_iff.mp hresolved x hx)
    · apply normalize_of_isResolved
      rw [isResolved] at hresolved ⊢
      rw [← hresolved]
      exact congrArg (Equations.isResolved · last) (equations_normalize state type)

/-- The equation for `0` that comes second is of no account. A limit of two is enough for one of the types, and
leaves the other with variables to replace. -/
theorem normalize_derives_of_two_equations :
    let registry : Registry := ⟨#[⟨0, .pair (.var 1) (.var 3)⟩, ⟨1, .int⟩, ⟨0, .bool⟩]⟩
    let state := start registry [0, 1, 2] 2 (some fun _ => none)
    let normal : Ty := .fn .int (.pair .int (.var 3))
    state.Quiet ∧ (state.normalize (.fn .int (.var 0))).2 = .ok normal ∧
      (∀ limit : Int, { (state.normalize (.fn .int (.var 0))).1 with limit }.normalize normal =
        ({ (state.normalize (.fn .int (.var 0))).1 with limit }, .ok normal)) ∧
      ∃ steps, (state.normalize (.fn (.var 0) (.var 0))).1.Extends state steps ∧
        Step.Chain (.fn (.var 0) (.var 0)) steps (.fn (.pair .int (.var 3)) (.var 0)) := by
  intro registry state normal
  have hquiet : state.Quiet := by
    rintro listener ⟨⟩ heard
    rfl
  have hok : (state.normalize (.fn .int (.var 0))).2 = .ok normal := by
    dsimp only [state, registry]
    rfl
  have herror : (state.normalize (.fn (.var 0) (.var 0))).2 =
      .error (.limitExceeded state.limit (.fn (.pair .int (.var 3)) (.var 0))) := by
    dsimp only [state, registry]
    rfl
  refine ⟨hquiet, hok, ?_, ?_⟩
  · obtain ⟨_, last, _, _, _, houtcome, _, hresult⟩ :=
      normalize_derives state hquiet (.fn .int (.var 0))
    obtain rfl : last = normal := by
      rcases houtcome with hlast | hlast
      · exact (Except.ok.inj (hok.symm.trans hlast)).symm
      · rw [hok] at hlast
        cases hlast
    exact (hresult hok).2
  · obtain ⟨steps, last, hextends, hchain, _, houtcome, _⟩ :=
      normalize_derives state hquiet (.fn (.var 0) (.var 0))
    rw [herror] at houtcome
    obtain rfl : Ty.fn (.pair .int (.var 3)) (.var 0) = last := by simpa using houtcome
    exact ⟨steps, hextends, hchain⟩

end Elimination

end TypeEquations
