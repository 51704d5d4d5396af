import TypeEquations.Proofs.Normalizing

/-!
# Listening

What a listener hears and what its objection does. With any listener a step or a normalization records
substitutions one after another and announces each as soon as it stands in the history; the first objection is
the end of it.
-/

namespace TypeEquations.Elimination

variable {state : Elimination} {type : Ty} {step : Step} {steps rest : List Step} {α β : Type}

def objection? (state : Elimination) (steps : List Step) : Option String :=
  state.listener.bind fun listener => listener (state.heard ++ steps.toArray)

def unlessObjection (objection : Option String) (outcome : Except Failure α) : Except Failure α :=
  match objection with
  | none => outcome
  | some text => .error (.objection text)

theorem announce_outcome (state : Elimination) (step : Step) :
    (state.announce step).2 = unlessObjection (state.objection? [step]) (.ok ()) := by
  rw [announce, objection?]
  cases state.listener with
  | none => rfl
  | some listener => cases htext : listener (state.heard.push step) <;> simp [htext, unlessObjection]

/-! ### One step in the history -/

theorem recorded_eq (state : Elimination) (step : Step) :
    state.recorded step = { (state.record step).1 with
      heard := if state.listener.isSome then state.heard.push step else state.heard } := by
  have hlistener : (state.record step).1.listener = state.listener := rfl
  rw [recorded, announce, ← hlistener]
  split <;> rename_i hcase
  · rw [if_neg (by simp [hcase])]
    rfl
  · rw [if_pos (by simp [hcase])]
    rfl

@[simp]
theorem registry_recorded (state : Elimination) (step : Step) :
    (state.recorded step).registry = (state.registry.add step.equation).1 := by
  rw [recorded_eq]
  rfl

@[simp]
theorem ids_recorded (state : Elimination) (step : Step) : (state.recorded step).ids = state.ids := by
  rw [recorded_eq]
  rfl

@[simp]
theorem listener_recorded (state : Elimination) (step : Step) :
    (state.recorded step).listener = state.listener := by
  rw [recorded_eq]
  rfl

@[simp]
theorem history_recorded (state : Elimination) (step : Step) :
    (state.recorded step).history =
      state.history.push ⟨state.registry.entries.size, step.before, step.after⟩ := by
  rw [recorded_eq]
  rfl

@[simp]
theorem heard_recorded (state : Elimination) (step : Step) :
    (state.recorded step).heard =
      if state.listener.isSome then state.heard.push step else state.heard := by
  rw [recorded_eq]

theorem objection?_recorded (state : Elimination) (step : Step) (rest : List Step) :
    (state.recorded step).objection? rest = state.objection? (step :: rest) := by
  cases hlistener : state.listener <;> simp [objection?, hlistener]

/-- A step is recorded whatever the listener says; an objection takes the place of the answer. -/
theorem step_of_next? (hnext : Step.next? state.equations type = some step) :
    state.step type = (state.recorded step,
      unlessObjection (state.objection? [step]) (.ok (step.after, some state.registry.entries.size))) := by
  have hobjection : (state.record step).1.objection? [step] = state.objection? [step] := rfl
  have hannounce : (state.record step).1.announce step =
      (state.recorded step, unlessObjection (state.objection? [step]) (.ok ())) :=
    Prod.ext rfl (hobjection ▸ announce_outcome _ step)
  simp only [Elimination.step, hnext, hannounce]
  cases state.objection? [step] <;> rfl

/-! ### Objections -/

/-- There is no objection to any but the last step, and an objection to the last one is the outcome. -/
structure Heeds (state : Elimination) (steps : List Step) (outcome : Except Failure α) : Prop where
  ends : ∀ told text, told <+: steps → told ≠ [] → state.objection? told = some text →
    told = steps ∧ outcome = .error (.objection text)
  objected : ∀ text, outcome = .error (.objection text) → steps ≠ [] ∧ state.objection? steps = some text

theorem Heeds.nil {outcome : Except Failure α} (hnone : ∀ text, outcome ≠ .error (.objection text)) :
    state.Heeds [] outcome where
  ends _ _ hprefix hne := absurd (List.prefix_nil.mp hprefix) hne
  objected text houtcome := absurd houtcome (hnone text)

theorem Heeds.nil_ok (value : α) : state.Heeds [] (.ok value) :=
  .nil (by simp)

theorem Heeds.single {text : String} (hobjection : state.objection? [step] = some text) :
    state.Heeds [step] (.error (.objection text) : Except Failure α) where
  ends told text' hprefix hne htext := by
    obtain rfl : told = [step] := by
      rcases List.prefix_cons_iff.mp hprefix with rfl | ⟨tail, rfl, htail⟩
      · exact absurd rfl hne
      · rw [List.prefix_nil.mp htail]
    rw [hobjection] at htext
    exact ⟨rfl, by rw [Option.some.inj htext]⟩
  objected text' houtcome := by
    cases houtcome
    exact ⟨List.cons_ne_nil _ _, hobjection⟩

/-- A step that meets no objection may come first. -/
theorem Heeds.cons {outcome : Except Failure α} (hnone : state.objection? [step] = none)
    (h : (state.recorded step).Heeds rest outcome) : state.Heeds (step :: rest) outcome where
  ends told text hprefix hne htext := by
    rcases List.prefix_cons_iff.mp hprefix with rfl | ⟨tail, rfl, htail⟩
    · exact absurd rfl hne
    · have htail_ne : tail ≠ [] := by
        rintro rfl
        rw [hnone] at htext
        cases htext
      obtain ⟨rfl, houtcome⟩ := h.ends tail text htail htail_ne (objection?_recorded .. ▸ htext)
      exact ⟨rfl, houtcome⟩
  objected text houtcome := by
    obtain ⟨_, htext⟩ := h.objected text houtcome
    exact ⟨List.cons_ne_nil _ _, objection?_recorded state step rest ▸ htext⟩

theorem Heeds.map {outcome : Except Failure α} (h : state.Heeds steps outcome) (f : α → β) :
    state.Heeds steps (outcome.map f) where
  ends told text hprefix hne htext := by
    obtain ⟨htold, houtcome⟩ := h.ends told text hprefix hne htext
    exact ⟨htold, by rw [houtcome]; rfl⟩
  objected text houtcome := by
    cases outcome with
    | ok value => cases houtcome
    | error failure =>
      cases houtcome
      exact h.objected text rfl

/-! ### Runs under any listener -/

/-- A step records the next substitution or nothing, and hands back the number of the recorded equation. -/
theorem exists_replay_step (state : Elimination) (type : Ty) :
    ∃ steps, (state.step type).1 = state.replay steps ∧ state.Heeds steps (state.step type).2 ∧
      ∀ after fired, (state.step type).2 = .ok (after, fired) →
        fired.toList = List.range' state.registry.entries.size steps.length := by
  cases hnext : Step.next? state.equations type with
  | none =>
    rw [step_of_next?_eq_none hnext]
    refine ⟨[], rfl, .nil_ok _, ?_⟩
    rintro _ _ ⟨⟩
    rfl
  | some step =>
    rw [step_of_next? hnext]
    refine ⟨[step], rfl, ?_⟩
    cases hobjection : state.objection? [step] with
    | some text => exact ⟨.single hobjection, nofun⟩
    | none =>
      refine ⟨.cons hobjection (.nil_ok _), ?_⟩
      rintro _ _ ⟨⟩
      rfl

/-- Normalizing begins like an undisturbed run, and ends where there is an objection. -/
theorem exists_replay_normalizeWithin (state : Elimination) (type : Ty) (bound : Nat) :
    ∃ steps, steps <+: state.equations.run bound type ∧
      (state.normalizeWithin type bound).1 = state.replay steps ∧
      state.Heeds steps (state.normalizeWithin type bound).2 := by
  induction bound generalizing state type with
  | zero =>
    refine ⟨[], List.nil_prefix, ?_⟩
    rw [normalizeWithin]
    split
    · exact ⟨rfl, .nil_ok type⟩
    · exact ⟨rfl, .nil (by simp)⟩
  | succ bound ih =>
    rw [normalizeWithin, Equations.run]
    cases hnext : Step.next? state.equations type with
    | none =>
      rw [step_of_next?_eq_none hnext]
      exact ⟨[], List.nil_prefix, rfl, .nil_ok type⟩
    | some step =>
      rw [step_of_next? hnext]
      cases hobjection : state.objection? [step] with
      | some text => exact ⟨[step], by simp, rfl, .single hobjection⟩
      | none =>
        -- the rest is a run from the recorded state, whose equations are the same
        obtain ⟨rest, hprefix, hstate, hheeds⟩ := ih (state.recorded step) step.after
        rw [equations_recorded] at hprefix
        exact ⟨step :: rest, List.cons_prefix_cons.mpr ⟨rfl, hprefix⟩, hstate, hheeds.cons hobjection⟩

/-! ### The state after steps -/

def entriesFrom (first : EquationId) : List Step → List Entry
  | [] => []
  | step :: rest => ⟨first, step.before, step.after⟩ :: entriesFrom (first + 1) rest

theorem map_equation_entriesFrom (first : EquationId) (steps : List Step) :
    (entriesFrom first steps).map (·.equation) = List.range' first steps.length := by
  induction steps generalizing first with
  | nil => rfl
  | cons step rest ih => rw [entriesFrom, List.map_cons, ih, List.length_cons, List.range'_succ]

theorem entriesFrom_append (first : EquationId) (steps rest : List Step) :
    entriesFrom first (steps ++ rest) = entriesFrom first steps ++ entriesFrom (first + steps.length) rest := by
  induction steps generalizing first with
  | nil => rfl
  | cons step tail ih =>
    rw [List.cons_append, entriesFrom, entriesFrom, ih, List.length_cons, List.cons_append, Nat.add_assoc,
      Nat.add_comm 1]

theorem length_entriesFrom (first : EquationId) (steps : List Step) :
    (entriesFrom first steps).length = steps.length := by
  simpa using congrArg List.length (map_equation_entriesFrom first steps)

theorem replay_cons (state : Elimination) (step : Step) (rest : List Step) :
    state.replay (step :: rest) = (state.recorded step).replay rest :=
  rfl

theorem replay_concat (state : Elimination) (steps : List Step) (step : Step) :
    state.replay (steps ++ [step]) = (state.replay steps).recorded step :=
  List.foldl_append

theorem registry_replay (state : Elimination) (steps : List Step) :
    (state.replay steps).registry = (state.registry.addAll (steps.map (·.equation))).1 := by
  induction steps generalizing state with
  | nil => rfl
  | cons step rest ih =>
    rw [replay_cons, ih, registry_recorded]
    rfl

theorem ids_replay (state : Elimination) (steps : List Step) : (state.replay steps).ids = state.ids := by
  induction steps generalizing state with
  | nil => rfl
  | cons step rest ih => rw [replay_cons, ih, ids_recorded]

theorem listener_replay (state : Elimination) (steps : List Step) :
    (state.replay steps).listener = state.listener := by
  induction steps generalizing state with
  | nil => rfl
  | cons step rest ih => rw [replay_cons, ih, listener_recorded]

theorem equations_replay (state : Elimination) (steps : List Step) :
    (state.replay steps).equations = state.equations := by
  rw [equations, ids_replay, registry_replay]
  exact Registry.select_addAll_of_lt _ state.ids_lt

theorem history_replay (state : Elimination) (steps : List Step) :
    (state.replay steps).history =
      state.history ++ (entriesFrom state.registry.entries.size steps).toArray := by
  induction steps generalizing state with
  | nil => exact Array.append_empty.symm
  | cons step rest ih =>
    rw [replay_cons, ih, history_recorded, registry_recorded, entriesFrom]
    simp [Registry.add]

/-- When a step is in the history, but not yet announced, the history is what it will be afterwards. -/
theorem history_record_replay (state : Elimination) (steps : List Step) (step : Step) :
    ((state.replay steps).record step).1.history =
      state.history ++ (entriesFrom state.registry.entries.size (steps ++ [step])).toArray := by
  rw [← history_replay, replay_concat, history_recorded]
  rfl

def Tells (registry : Registry) (entry : Entry) (step : Step) : Prop :=
  registry.get? entry.equation = some step.equation ∧ entry.before = step.before ∧ entry.after = step.after

theorem tells_addAll (registry : Registry) (steps : List Step) :
    List.Forall₂ (Tells (registry.addAll (steps.map (·.equation))).1)
      (entriesFrom registry.entries.size steps) steps := by
  induction steps generalizing registry with
  | nil => exact .nil
  | cons step rest ih =>
    have hsize : (registry.add step.equation).1.entries.size = registry.entries.size + 1 :=
      Array.size_push _
    have hrest := ih (registry.add step.equation).1
    rw [hsize] at hrest
    refine .cons ⟨?_, rfl, rfl⟩ hrest
    have hlt : registry.entries.size < (registry.add step.equation).1.entries.size :=
      hsize ▸ Nat.lt_succ_self _
    exact (Registry.get?_addAll_of_lt _ hlt).trans (by rw [Registry.get?_add, if_pos rfl])

/-- The new entries tell the steps, one each and in order. -/
theorem tells_replay (state : Elimination) (steps : List Step) :
    List.Forall₂ (Tells (state.replay steps).registry)
      (entriesFrom state.registry.entries.size steps) steps := by
  rw [registry_replay]
  exact tells_addAll state.registry steps

theorem exists_back?_replay (state : Elimination) (hne : steps ≠ []) :
    ∃ entry step, (state.replay steps).history.back? = some entry ∧ steps.getLast? = some step ∧
      Tells (state.replay steps).registry entry step := by
  obtain ⟨earlier, step, rfl⟩ := (List.eq_nil_or_concat steps).resolve_left hne
  rw [List.concat_eq_append, replay_concat, history_recorded, registry_recorded]
  refine ⟨_, step, Array.back?_push, List.getLast?_concat, ?_, rfl, rfl⟩
  exact (Registry.get?_add ..).trans (if_pos rfl)

/-- A listener has heard all steps in order. -/
theorem heard_replay (state : Elimination) (steps : List Step) :
    (state.replay steps).heard =
      if state.listener.isSome then state.heard ++ steps.toArray else state.heard := by
  induction steps generalizing state with
  | nil => simp [replay]
  | cons step rest ih =>
    rw [replay_cons, ih, listener_recorded, heard_recorded]
    cases hlistener : state.listener <;> simp

theorem equations_step (state : Elimination) (type : Ty) :
    (state.step type).1.equations = state.equations := by
  cases hnext : Step.next? state.equations type with
  | none => rw [step_of_next?_eq_none hnext]
  | some step => rw [step_of_next? hnext, equations_recorded]

theorem equations_normalize (state : Elimination) (type : Ty) :
    (state.normalize type).1.equations = state.equations := by
  obtain ⟨steps, _, hstate, _⟩ := state.exists_replay_normalizeWithin type state.limit.toNat
  rw [normalize, hstate, equations_replay]

end TypeEquations.Elimination
