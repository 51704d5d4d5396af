import TypeEquations.Session
import TypeEquations.Proofs.Calls

/-!
# Isolation

Equations that are changed in place belong to the caller, to the store or to the history, and never to two of
them. So a renaming in one place shows in no other, whatever is done in whatever order, and each entry of the
history is the account of one substitution, which the listener has heard of.
-/

namespace TypeEquations.Elimination

inductive Operation where
  | call (call : Call)
  | append (equation : Equation)
  | setLimit (limit : Int)
  -- whoever holds an equation may rename in it
  | rename (id : EquationId) (source target : Int)

def operate (state : Elimination) : Operation → Elimination × Except Failure (List EquationId)
  | .call call => state.call call
  | .append equation => ((state.append [equation]).1, .ok (state.append [equation]).2)
  | .setLimit limit => ({ state with limit }, .ok [])
  | .rename id source target =>
    ((state.renameAll source target [id]).1, (state.renameAll source target [id]).2.map fun _ => [])

def operateAll (state : Elimination) (operations : List Operation) : Elimination :=
  operations.foldl (fun state operation => (state.operate operation).1) state

def Operation.Renames (operation : Operation) (id : EquationId) : Prop :=
  ∃ source target, operation = .rename id source target

variable {state state' : Elimination} {operation : Operation} {steps : List Step}
  {caller : List EquationId} {id other : EquationId}

/-! ### What an operation does -/

inductive Effect (state : Elimination) (operation : Operation) : Elimination → List Step → Prop where
  | added (equations : List Equation) : Effect state operation (state.append equations).1 []
  | recorded (steps : List Step) : Effect state operation (state.replay steps) steps
  | changed (registry : Registry) (hsize : registry.entries.size = state.registry.entries.size)
    (hkept : ∀ id, id ∉ state.ids → ¬ operation.Renames id → registry.get? id = state.registry.get? id) :
    Effect state operation (state.withEntries registry hsize) []
  | limited (limit : Int) : Effect state operation { state with limit } []

theorem map_mapError_ne_objection {α β : Type} (result : Except InvalidId α) (f : α → β) (text : String) :
    (result.mapError Failure.invalidId).map f ≠ .error (.objection text) := by
  cases result <;> simp [Except.mapError, Except.map]

/-- **One operation.** It has an effect, its steps were heard out, and a step hands back the number of its
equation. -/
theorem exists_effect (state : Elimination) (operation : Operation) :
    ∃ steps, state.Effect operation (state.operate operation).1 steps ∧
      state.Heeds steps (state.operate operation).2 ∧
      ∀ type ids, operation = .call (.step type) → (state.operate operation).2 = .ok ids →
        ids = List.range' state.registry.entries.size steps.length := by
  cases operation with
  | call call =>
    cases call with
    | constrain left right =>
      cases hequate : left.equate right with
      | error mismatch =>
        have hcall : state.operate (.call (.constrain left right)) = _ := constrain_of_error hequate
        rw [hcall]
        exact ⟨[], .recorded [], .nil (by simp), nofun⟩
      | ok equations =>
        have hcall : state.operate (.call (.constrain left right)) = _ := constrain_of_ok hequate
        rw [hcall]
        exact ⟨[], .added equations, .nil_ok _, nofun⟩
    | step type =>
      obtain ⟨steps, hstate, hheeds, hfired⟩ := state.exists_replay_step type
      refine ⟨steps, hstate ▸ .recorded steps, hheeds.map _, ?_⟩
      -- an answer that is not an objection is the number of the one new entry, or there is none
      rintro _ ids ⟨⟩ hok
      change (state.step type).2.map (fun answer => answer.2.toList) = .ok ids at hok
      cases hanswer : (state.step type).2 with
      | error failure =>
        rw [hanswer] at hok
        cases hok
      | ok answer =>
        rw [hanswer] at hok
        cases hok
        exact hfired _ _ hanswer
    | normalize type =>
      obtain ⟨steps, _, hstate, hheeds⟩ := state.exists_replay_normalizeWithin type state.limit.toNat
      exact ⟨steps, hstate ▸ .recorded steps, hheeds.map _, nofun⟩
    | merge =>
      refine ⟨[], .changed _ (Registry.size_merge ..) ?_, .nil (map_mapError_ne_objection _ _), nofun⟩
      -- merging renames stored equations only
      intro id hid _
      exact Registry.get?_mergeFrom_of_not_mem hid ..
  | append equation => exact ⟨[], .added [equation], .nil_ok _, nofun⟩
  | setLimit limit => exact ⟨[], .limited limit, .nil_ok _, nofun⟩
  | rename renamed source target =>
    refine ⟨[], .changed _ (Registry.size_renameAll ..) ?_, .nil (map_mapError_ne_objection _ _), nofun⟩
    intro id _ hrenames
    refine Registry.get?_renameAll_of_not_mem ?_ ..
    rintro hid
    obtain rfl := List.mem_singleton.mp hid
    exact hrenames ⟨source, target, rfl⟩

/-- Entries that are not stored change by their own renaming only. -/
theorem Effect.get?_eq (h : state.Effect operation state' steps) (hlt : id < state.registry.entries.size)
    (hstored : id ∉ state.ids) (hrenames : ¬ operation.Renames id) :
    state'.registry.get? id = state.registry.get? id := by
  cases h with
  | added equations => exact Registry.get?_addAll_of_lt equations hlt
  | recorded steps =>
    rw [registry_replay]
    exact Registry.get?_addAll_of_lt _ hlt
  | changed registry hsize hkept => exact hkept id hstored hrenames
  | limited limit => rfl

theorem Effect.history (h : state.Effect operation state' steps) :
    state'.history = state.history ++ (entriesFrom state.registry.entries.size steps).toArray := by
  cases h with
  | recorded steps => exact history_replay state steps
  | added | changed | limited => exact Array.append_empty.symm

theorem Effect.tells (h : state.Effect operation state' steps) :
    List.Forall₂ (Tells state'.registry) (entriesFrom state.registry.entries.size steps) steps := by
  cases h with
  | recorded steps => exact tells_replay state steps
  | added | changed | limited => exact .nil

theorem Effect.heard (h : state.Effect operation state' steps) :
    state'.heard = if state.listener.isSome then state.heard ++ steps.toArray else state.heard := by
  cases h with
  | recorded steps => exact heard_replay state steps
  | added | changed | limited => simp [append, withEntries]

/-- An operation that takes steps does nothing else. -/
theorem Effect.eq_replay (h : state.Effect operation state' steps) (hne : steps ≠ []) :
    state' = state.replay steps := by
  cases h with
  | recorded steps => rfl
  | added | changed | limited => exact absurd rfl hne

theorem Effect.listener (h : state.Effect operation state' steps) : state'.listener = state.listener := by
  cases h with
  | recorded steps => exact listener_replay state steps
  | added | changed | limited => rfl

/-! ### Separation -/

def owned (state : Elimination) : List EquationId :=
  state.ids ++ state.history.toList.map (·.equation)

/-- No equation has two owners among the caller, the store and the entries of the history. -/
structure Separate (state : Elimination) (caller : List EquationId) : Prop where
  caller_lt : ∀ id ∈ caller, id < state.registry.entries.size
  caller_not_mem : ∀ id ∈ caller, id ∉ state.owned
  nodup : state.owned.Nodup

theorem lt_of_mem_owned (hid : id ∈ state.owned) : id < state.registry.entries.size := by
  rcases List.mem_append.mp hid with hstored | hrecorded
  · exact state.ids_lt id hstored
  · obtain ⟨entry, hentry, rfl⟩ := List.mem_map.mp hrecorded
    exact state.history_lt entry (Array.mem_toList_iff.mp hentry)

/-- What is new has new numbers. -/
theorem Effect.exists_owned_perm (h : state.Effect operation state' steps) :
    ∃ count, state'.owned.Perm (state.owned ++ List.range' state.registry.entries.size count) ∧
      state'.registry.entries.size = state.registry.entries.size + count := by
  cases h with
  | added equations =>
    refine ⟨equations.length, ?_, Registry.size_addAll ..⟩
    -- the new numbers stand behind the stored ones, before those of the history
    rw [← Registry.ids_addAll, owned, owned, List.append_assoc]
    simp only [append, List.append_assoc]
    exact List.perm_append_comm.append_left _
  | recorded steps =>
    refine ⟨steps.length, ?_, ?_⟩
    · rw [owned, owned, history_replay, ids_replay, Array.toList_append, List.map_append,
        map_equation_entriesFrom, List.append_assoc]
    · rw [registry_replay, Registry.size_addAll, List.length_map]
  | changed registry hsize _ => exact ⟨0, by simp [owned, withEntries], hsize⟩
  | limited limit => exact ⟨0, by simp [owned], rfl⟩

/-- No effect gives an equation a second owner. -/
theorem Separate.of_effect (hseparate : state.Separate caller)
    (h : state.Effect operation state' steps) : state'.Separate caller := by
  obtain ⟨count, hperm, hsize⟩ := h.exists_owned_perm
  refine ⟨?_, ?_, ?_⟩
  · intro id hid
    rw [hsize]
    exact Nat.lt_add_right _ (hseparate.caller_lt id hid)
  · intro id hid hmem
    rcases List.mem_append.mp (hperm.mem_iff.mp hmem) with hold | hnew
    · exact hseparate.caller_not_mem id hid hold
    · exact Nat.not_lt.mpr (List.mem_range'_1.mp hnew).1 (hseparate.caller_lt id hid)
  · rw [hperm.nodup_iff]
    refine List.nodup_append.mpr ⟨hseparate.nodup, List.nodup_range', ?_⟩
    rintro id hold _ hnew rfl
    exact Nat.not_lt.mpr (List.mem_range'_1.mp hnew).1 (lt_of_mem_owned hold)

/-- An elimination starts with copies, and so with equations that nobody else holds. -/
theorem separate_start {registry : Registry} (hcaller : ∀ id ∈ caller, id < registry.entries.size)
    (limit : Int) (listener : Option Listener) : (start registry caller limit listener).Separate caller := by
  have howned : (start registry caller limit listener).owned = (registry.copyAll caller).2 :=
    List.append_nil _
  refine ⟨?_, ?_, ?_⟩
  · intro id hid
    exact Registry.lt_size_addAll _ (hcaller id hid)
  · intro id hid hmem
    rw [howned] at hmem
    exact Nat.not_lt.mpr (Registry.mem_addAll.mp hmem).1 (hcaller id hid)
  · rw [howned]
    exact registry.nodup_addAll _

theorem Separate.operateAll (hseparate : state.Separate caller) (operations : List Operation) :
    (state.operateAll operations).Separate caller := by
  induction operations generalizing state with
  | nil => exact hseparate
  | cons operation rest ih =>
    obtain ⟨_, heffect, _⟩ := state.exists_effect operation
    exact ih (hseparate.of_effect heffect)

theorem listener_operateAll (state : Elimination) (operations : List Operation) :
    (state.operateAll operations).listener = state.listener := by
  induction operations generalizing state with
  | nil => rfl
  | cons operation rest ih =>
    obtain ⟨_, heffect, _⟩ := state.exists_effect operation
    exact (ih _).trans heffect.listener

/-! ### Isolation -/

def SameStored (state' state : Elimination) : Prop :=
  state'.ids = state.ids ∧ ∀ id ∈ state.ids, state'.registry.get? id = state.registry.get? id

def SameHistory (state' state : Elimination) : Prop :=
  state'.history = state.history ∧
    ∀ entry ∈ state.history, state'.registry.get? entry.equation = state.registry.get? entry.equation

/-- The caller's equations change by their own renaming only, and it changes nothing else. -/
structure LeavesCaller (state : Elimination) (caller : List EquationId) (operation : Operation)
    (state' : Elimination) : Prop where
  kept : ∀ id ∈ caller, ¬ operation.Renames id → state'.registry.get? id = state.registry.get? id
  apart : ∀ id ∈ caller, operation.Renames id → state'.SameStored state ∧ state'.SameHistory state

/-- The history goes on with some entries. The old ones stay, but for a renaming in the equation that an entry
has of its own, which a step handed back when it made the entry; and that changes nothing that is stored. -/
structure ExtendsHistory (state : Elimination) (operation : Operation) (state' : Elimination)
    (outcome : Except Failure (List EquationId)) (entries : List Entry) : Prop where
  history : state'.history = state.history ++ entries.toArray
  kept : ∀ entry ∈ state.history, ¬ operation.Renames entry.equation →
    state'.registry.get? entry.equation = state.registry.get? entry.equation
  apart : ∀ entry ∈ state.history, operation.Renames entry.equation → state'.SameStored state
  handed : ∀ type ids, operation = .call (.step type) → outcome = .ok ids →
    entries.map (·.equation) = ids

/-- The listener hears of each new entry once, in order, and when the entry is in the history. An objection is
the end of the operation, with its entry the last and the equations as before. -/
structure Announces (state state' : Elimination) (outcome : Except Failure (List EquationId))
    (entries : List Entry) (steps : List Step) : Prop where
  tells : List.Forall₂ (Tells state'.registry) entries steps
  heard : state'.heard = if state.listener.isSome then state.heard ++ steps.toArray else state.heard
  announced : ∀ earlier step later, steps = earlier ++ step :: later →
    let noted := ((state.replay earlier).record step).1
    noted.history = state.history ++ (entries.take (earlier.length + 1)).toArray ∧
      noted.heard = (if state.listener.isSome then state.heard ++ earlier.toArray else state.heard) ∧
      (noted.announce step).1 = state.replay (earlier ++ [step])
  replayed : steps ≠ [] → state' = state.replay steps
  heeds : state.Heeds steps outcome
  objected : ∀ text, outcome = .error (.objection text) → ∃ entry step,
    state'.history.back? = some entry ∧ steps.getLast? = some step ∧ Tells state'.registry entry step ∧
      state'.SameStored state

/-- Steps leave the stored equations alone. -/
theorem sameStored_replay (state : Elimination) (steps : List Step) :
    (state.replay steps).SameStored state := by
  refine ⟨ids_replay state steps, fun id hid => ?_⟩
  rw [registry_replay]
  exact Registry.get?_addAll_of_lt _ (state.ids_lt id hid)

theorem get?_operate_of_renames (hrenames : operation.Renames id) (hne : other ≠ id) :
    (state.operate operation).1.registry.get? other = state.registry.get? other := by
  obtain ⟨source, target, rfl⟩ := hrenames
  refine Registry.get?_renameAll_of_not_mem ?_ ..
  rwa [List.mem_singleton]

/-- A renaming reaches the store only through an equation that is stored. -/
theorem sameStored_of_renames (hrenames : operation.Renames id) (hid : id ∉ state.ids) :
    (state.operate operation).1.SameStored state := by
  refine ⟨?_, fun other hother => get?_operate_of_renames hrenames ?_⟩
  · obtain ⟨source, target, rfl⟩ := hrenames
    rfl
  · rintro rfl
    exact hid hother

theorem sameHistory_of_renames (hrenames : operation.Renames id)
    (hid : ∀ entry ∈ state.history, entry.equation ≠ id) :
    (state.operate operation).1.SameHistory state := by
  refine ⟨?_, fun entry hentry => get?_operate_of_renames hrenames (hid entry hentry)⟩
  obtain ⟨source, target, rfl⟩ := hrenames
  rfl

theorem mem_owned_of_stored (hid : id ∈ state.ids) : id ∈ state.owned :=
  List.mem_append_left _ hid

theorem mem_owned_of_recorded {entry : Entry} (hentry : entry ∈ state.history) :
    entry.equation ∈ state.owned :=
  List.mem_append_right _ (List.mem_map_of_mem (Array.mem_toList_iff.mpr hentry))

theorem Separate.not_stored_of_recorded (hseparate : state.Separate caller) {entry : Entry}
    (hentry : entry ∈ state.history) : entry.equation ∉ state.ids := by
  intro hstored
  have hrecorded := List.mem_map_of_mem (f := (·.equation)) (Array.mem_toList_iff.mpr hentry)
  exact (List.nodup_append.mp hseparate.nodup).2.2 _ hstored _ hrecorded rfl

theorem Separate.leavesCaller (hseparate : state.Separate caller) (operation : Operation) :
    state.LeavesCaller caller operation (state.operate operation).1 where
  kept id hid hrenames := by
    obtain ⟨_, heffect, _⟩ := state.exists_effect operation
    have hstored : id ∉ state.ids := fun hstored =>
      hseparate.caller_not_mem id hid (mem_owned_of_stored hstored)
    exact heffect.get?_eq (hseparate.caller_lt id hid) hstored hrenames
  apart id hid hrenames := by
    have hnot := hseparate.caller_not_mem id hid
    constructor
    · exact sameStored_of_renames hrenames fun hstored => hnot (mem_owned_of_stored hstored)
    · refine sameHistory_of_renames hrenames fun entry hentry => ?_
      rintro rfl
      exact hnot (mem_owned_of_recorded hentry)

theorem Separate.extendsHistory (hseparate : state.Separate caller)
    (heffect : state.Effect operation (state.operate operation).1 steps)
    (hhanded : ∀ type ids, operation = .call (.step type) → (state.operate operation).2 = .ok ids →
      ids = List.range' state.registry.entries.size steps.length) :
    state.ExtendsHistory operation (state.operate operation).1 (state.operate operation).2
      (entriesFrom state.registry.entries.size steps) where
  history := heffect.history
  kept entry hentry hrenames :=
    heffect.get?_eq (state.history_lt entry hentry) (hseparate.not_stored_of_recorded hentry) hrenames
  apart entry hentry hrenames :=
    sameStored_of_renames hrenames (hseparate.not_stored_of_recorded hentry)
  handed type ids hcall hok := by
    rw [map_equation_entriesFrom, hhanded type ids hcall hok]

theorem Effect.announces {outcome : Except Failure (List EquationId)}
    (h : state.Effect operation state' steps) (hheeds : state.Heeds steps outcome) :
    state.Announces state' outcome (entriesFrom state.registry.entries.size steps) steps where
  tells := h.tells
  heard := h.heard
  announced := by
    rintro earlier step later rfl
    refine ⟨?_, heard_replay state earlier, (replay_concat ..).symm⟩
    rw [history_record_replay, List.append_cons earlier step later,
      entriesFrom_append _ (earlier ++ [step]) later, List.take_left' (by simp [length_entriesFrom])]
  replayed := h.eq_replay
  heeds := hheeds
  objected text hobjection := by
    obtain ⟨hne, _⟩ := hheeds.objected text hobjection
    obtain rfl := h.eq_replay hne
    obtain ⟨entry, step, hback, hlast, htells⟩ := state.exists_back?_replay hne
    exact ⟨entry, step, hback, hlast, htells, sameStored_replay state steps⟩

/-- **Isolation.** After any operations, whatever comes next leaves the caller's equations and the entries of the
history alone, except that it may rename in one of them, which shows nowhere else. The listener hears of each
new entry, once it is there, and its objection is heeded. -/
theorem operate_isolated {registry : Registry} (hcaller : ∀ id ∈ caller, id < registry.entries.size)
    (limit : Int) (listener : Option Listener) (operations : List Operation) (operation : Operation) :
    let state := (start registry caller limit listener).operateAll operations
    let state' := (state.operate operation).1
    let outcome := (state.operate operation).2
    state.listener = listener ∧ state.Separate caller ∧ state.LeavesCaller caller operation state' ∧
      ∃ entries steps, state.ExtendsHistory operation state' outcome entries ∧
        state.Announces state' outcome entries steps := by
  intro state state' outcome
  have hlistener : state.listener = listener := listener_operateAll _ operations
  have hseparate : state.Separate caller := (separate_start hcaller limit listener).operateAll operations
  obtain ⟨steps, heffect, hheeds, hhanded⟩ := state.exists_effect operation
  exact ⟨hlistener, hseparate, hseparate.leavesCaller operation, _, steps,
    hseparate.extendsHistory heffect hhanded, heffect.announces hheeds⟩

/-- The caller's second equation and the one recorded first are renamed from outside. Then the listener objects
to the third step that it hears of, which is the second of a normalization. -/
theorem operate_isolated_of_objection :
    let registry : Registry := ⟨#[⟨0, .pair (.var 1) (.var 1)⟩, ⟨1, .int⟩]⟩
    let caller : List EquationId := [0, 1, 0]
    let listener : Listener := fun heard => if heard.size = 3 then some "enough" else none
    let state := (start registry caller 9 (some listener)).operateAll
      [.call (.step (.var 0)), .rename 1 1 7, .rename 5 0 8]
    let operation : Operation := .call (.normalize (.fn .int (.var 0)))
    let state' := (state.operate operation).1
    let outcome := (state.operate operation).2
    (∀ id ∈ caller, id < registry.entries.size) ∧ outcome = .error (.objection "enough") ∧
      state'.history.size = 3 ∧ state.LeavesCaller caller operation state' ∧
      ∃ entries steps, state.ExtendsHistory operation state' outcome entries ∧
        state.Announces state' outcome entries steps := by
  intro registry caller listener state operation state' outcome
  have hcaller : ∀ id ∈ caller, id < registry.entries.size := by decide
  obtain ⟨_, _, hleaves, hhistory⟩ := operate_isolated hcaller 9 (some listener)
    [.call (.step (.var 0)), .rename 1 1 7, .rename 5 0 8] operation
  refine ⟨hcaller, ?_, ?_, hleaves, hhistory⟩
  · dsimp only [outcome, operation, state, listener, caller, registry]
    rfl
  · dsimp only [state', operation, state, listener, caller, registry]
    rfl

/-! ### Sessions -/

/-- Renaming in several equations is renaming in one after another, up to the first failure. -/
theorem exists_operateAll_renameAll (state : Elimination) (source target : Int) (ids : List EquationId) :
    ∃ operations, (state.renameAll source target ids).1 = state.operateAll operations := by
  induction ids generalizing state with
  | nil => exact ⟨[], rfl⟩
  | cons id rest ih =>
    cases hrename : state.registry.rename source target id with
    | mk registry outcome =>
      cases outcome with
      | ok _ =>
        obtain ⟨operations, hrest⟩ := ih (state.operate (.rename id source target)).1
        refine ⟨.rename id source target :: operations, Eq.trans ?_ hrest⟩
        simp [operate, renameAll, withEntries, Registry.renameAll, hrename]
      | error _ =>
        refine ⟨[.rename id source target], ?_⟩
        simp [operateAll, operate, renameAll, withEntries, Registry.renameAll, hrename]

/-- What a user does in a session is operations on the elimination. -/
theorem exists_operateAll_perform (session : Session) (action : Session.Action) :
    ∃ operations, (session.perform action).1.elimination = session.elimination.operateAll operations := by
  cases action with
  | constrain left right =>
    refine ⟨[.call (.constrain left right)], ?_⟩
    rw [Session.perform]
    split <;> rename_i hresult <;> exact (congrArg Prod.fst hresult).symm
  | append equation => exact ⟨[.append equation], rfl⟩
  | setType | isResolved | vars => exact ⟨[], rfl⟩
  | setLimit limit => exact ⟨[.setLimit limit], rfl⟩
  | step type =>
    refine ⟨[.call (.step (type.getD session.type))], ?_⟩
    rw [Session.perform]
    split <;> rename_i hresult <;> exact (congrArg Prod.fst hresult).symm
  | normalize type =>
    refine ⟨[.call (.normalize (type.getD session.type))], ?_⟩
    rw [Session.perform]
    split <;> rename_i hresult <;> exact (congrArg Prod.fst hresult).symm
  | merge => exact ⟨[.call .merge], rfl⟩
  | rename holder source target =>
    exact session.elimination.exists_operateAll_renameAll source target (session.held holder)

theorem caller_perform (session : Session) (action : Session.Action) :
    (session.perform action).1.caller = session.caller := by
  cases action with
  | constrain | step | normalize =>
    rw [Session.perform]
    split <;> rfl
  | append | setType | setLimit | isResolved | vars | merge | rename => rfl

theorem Separate.operate_session {session : Session} (hseparate : session.elimination.Separate session.caller)
    (action : Session.Action) :
    (session.perform action).1.elimination.Separate (session.perform action).1.caller := by
  obtain ⟨operations, helimination⟩ := exists_operateAll_perform session action
  rw [helimination, caller_perform]
  exact hseparate.operateAll operations

/-- In every session the user's own equations, the stored ones and those of the history stay apart. -/
theorem separate_session (equations : List Equation) (limit : Int) (listener : Option Listener) (type : Ty)
    (actions : List Session.Action) :
    let session := actions.foldl (fun session action => (session.perform action).1)
      (Session.start equations limit listener type)
    session.elimination.Separate session.caller := by
  have hstart : (Session.start equations limit listener type).elimination.Separate
      (Session.start equations limit listener type).caller :=
    separate_start (fun _ hid => (Registry.mem_addAll.mp hid).2) limit listener
  generalize Session.start equations limit listener type = session at hstart ⊢
  induction actions generalizing session with
  | nil => exact hstart
  | cons action rest ih => exact ih _ (hstart.operate_session action)

end TypeEquations.Elimination
