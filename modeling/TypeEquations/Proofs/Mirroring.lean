import TypeEquations.Proofs.Renumbering

/-!
# Mirrored registries

Only the order of the ids of variables counts, and not at all the numbers of the equations. A registry that
holds the renumbered images of some equations under other numbers goes on doing so when both are merged. With
that no operation on types and equations depends on the ids beyond their order.
-/

namespace TypeEquations

variable {f : Nat → Nat}

namespace Registry

variable {registry registry' : Registry} {ids rest : List EquationId} {id : EquationId}
  {onId : EquationId → EquationId}

/-- A map that keeps the order does not change which variable is the greater one. -/
theorem mergedVariables?_renumber (hf : StrictMono f) (equation : Equation) :
    mergedVariables? (equation.renumber f) =
      (mergedVariables? equation).map (Prod.map (renumberId f) (renumberId f)) := by
  rw [mergedVariables?, mergedVariables?, Equation.variables?_renumber]
  cases equation.variables? with
  | none => rfl
  | some link =>
    obtain ⟨x, y⟩ := link
    have hends : max (renumberId f x) (f y) = renumberId f (max x y) ∧
        min (renumberId f x) (f y) = renumberId f (min x y) := by
      rcases Int.le_total x y with hle | hle
      · have hle' : renumberId f x ≤ f y := renumberId_le hf hle
        rw [Int.max_eq_right hle, Int.max_eq_right hle', Int.min_eq_left hle, Int.min_eq_left hle']
        exact ⟨rfl, rfl⟩
      · have hle' : f y ≤ renumberId f x := renumberId_le hf hle
        rw [Int.max_eq_left hle, Int.max_eq_left hle', Int.min_eq_right hle, Int.min_eq_right hle']
        exact ⟨rfl, rfl⟩
    have hiff : renumberId f x = f y ↔ x = y := renumberId_inj hf (y := y)
    simp only [Option.map_some, Prod.map_apply, hiff, hends]
    split <;> rfl

/-- The entries listed in one registry have their renumbered images in another, under numbers of their own. -/
structure Mirrors (f : Nat → Nat) (onId : EquationId → EquationId) (registry registry' : Registry)
    (ids : List EquationId) : Prop where
  inj : ∀ id ∈ ids, ∀ other ∈ ids, onId id = onId other → id = other
  get?_eq : ∀ id ∈ ids, registry'.get? (onId id) = (registry.get? id).map (·.renumber f)

theorem Mirrors.select_eq (h : Mirrors f onId registry registry' ids) :
    registry'.select (ids.map onId) = (registry.select ids).map (·.renumber f) := by
  rw [select, select, List.filterMap_map, List.map_filterMap]
  exact List.filterMap_congr h.get?_eq

theorem Mirrors.rename (hf : StrictMono f) (h : Mirrors f onId registry registry' ids) (hid : id ∈ ids)
    (source target : Int) :
    let renamed := registry.rename source target id
    let renamed' := registry'.rename (renumberId f source) (renumberId f target) (onId id)
    Mirrors f onId renamed.1 renamed'.1 ids ∧ renamed'.2 = renamed.2 := by
  intro renamed renamed'
  have hget' := h.get?_eq id hid
  cases hget : registry.get? id with
  | none =>
    rw [hget, Option.map_none] at hget'
    have hrenamed : renamed = (registry, .ok ()) := rename_of_get?_eq_none hget ..
    have hrenamed' : renamed' = (registry', .ok ()) := rename_of_get?_eq_none hget' ..
    rw [hrenamed, hrenamed']
    exact ⟨h, rfl⟩
  | some equation =>
    rw [hget, Option.map_some] at hget'
    have hrenamed : renamed =
        (registry.set id (equation.rename source target).1, (equation.rename source target).2) :=
      rename_of_get? hget ..
    have hrenamed' : renamed' =
        (registry'.set (onId id) ((equation.rename source target).1.renumber f),
          (equation.rename source target).2) := by
      have hrename' := rename_of_get? hget' (renumberId f source) (renumberId f target)
      rw [Equation.rename_renumber hf] at hrename'
      exact hrename'
    rw [hrenamed, hrenamed']
    refine ⟨⟨h.inj, ?_⟩, rfl⟩
    intro other hother
    by_cases heq : other = id
    · subst heq
      rw [get?_set_self hget, get?_set_self hget', Option.map_some]
    · have hne : onId other ≠ onId id := fun hsame => heq (h.inj other hother id hid hsame)
      rw [get?_set_of_ne heq, get?_set_of_ne hne, h.get?_eq other hother]

/-- The images of renamed entries are the renamed images. -/
theorem Mirrors.renameAll (hf : StrictMono f) (h : Mirrors f onId registry registry' ids)
    (hrest : ∀ id ∈ rest, id ∈ ids) (source target : Int) :
    let renamed := registry.renameAll source target rest
    let renamed' := registry'.renameAll (renumberId f source) (renumberId f target) (rest.map onId)
    Mirrors f onId renamed.1 renamed'.1 ids ∧ renamed'.2 = renamed.2 := by
  induction rest generalizing registry registry' with
  | nil => exact ⟨h, rfl⟩
  | cons id rest ih =>
    obtain ⟨hid, hrest⟩ := List.forall_mem_cons.mp hrest
    obtain ⟨hmirrors, houtcome⟩ := h.rename hf hid source target
    simp only [List.map_cons, Registry.renameAll]
    rcases hrename : registry.rename source target id with ⟨renamed, outcome⟩
    rcases hrename' : registry'.rename (renumberId f source) (renumberId f target) (onId id) with
      ⟨renamed', outcome'⟩
    rw [hrename, hrename'] at hmirrors houtcome
    obtain rfl : outcome' = outcome := houtcome
    cases outcome' with
    | ok => exact ih hmirrors hrest
    | error error => exact ⟨hmirrors, rfl⟩

theorem Mirrors.map_filter_ne (h : Mirrors f onId registry registry' ids) (hid : id ∈ ids) :
    (ids.map onId).filter (· ≠ onId id) = (ids.filter (· ≠ id)).map onId := by
  rw [List.filter_map]
  congr 1
  apply List.filter_congr
  intro other hother
  have hiff : onId other = onId id ↔ other = id := ⟨h.inj other hother id hid, congrArg onId⟩
  simp [hiff]

/-- Induction on the equations still to come, with both registries as they then are. -/
theorem Mirrors.mergeFrom (hf : StrictMono f) (h : Mirrors f onId registry registry' ids)
    (hrest : ∀ id ∈ rest, id ∈ ids) :
    let merged := registry.mergeFrom ids rest
    let merged' := registry'.mergeFrom (ids.map onId) (rest.map onId)
    Mirrors f onId merged.1 merged'.1 ids ∧
      merged'.2 = merged.2.map (List.map (Prod.map (renumberId f) (renumberId f))) := by
  induction rest generalizing registry registry' with
  | nil => exact ⟨h, rfl⟩
  | cons id rest ih =>
    obtain ⟨hid, hrest⟩ := List.forall_mem_cons.mp hrest
    have hmerged : (registry'.get? (onId id)).bind mergedVariables? =
        ((registry.get? id).bind mergedVariables?).map (Prod.map (renumberId f) (renumberId f)) := by
      rw [h.get?_eq id hid]
      cases registry.get? id with
      | none => rfl
      | some equation => exact mergedVariables?_renumber hf equation
    rw [List.map_cons]
    cases hcase : (registry.get? id).bind mergedVariables? with
    | none =>
      rw [hcase, Option.map_none] at hmerged
      rw [mergeFrom_of_none hcase, mergeFrom_of_none hmerged]
      exact ih h hrest
    | some both =>
      obtain ⟨source, target⟩ := both
      have hothers : ∀ other ∈ ids.filter (· ≠ id), other ∈ ids :=
        fun _ hmem => List.mem_of_mem_filter hmem
      obtain ⟨hmirrors, houtcome⟩ := h.renameAll hf hothers source target
      rw [← h.map_filter_ne hid] at hmirrors houtcome
      rw [hcase, Option.map_some, Prod.map_apply] at hmerged
      rcases hrename : registry.renameAll source target (ids.filter (· ≠ id)) with ⟨renamed, outcome⟩
      rcases hrename' : registry'.renameAll (renumberId f source) (renumberId f target)
        ((ids.map onId).filter (· ≠ onId id)) with ⟨renamed', outcome'⟩
      rw [hrename, hrename'] at hmirrors houtcome
      obtain rfl : outcome' = outcome := houtcome
      cases outcome' with
      | error error =>
        rw [mergeFrom_of_error hcase hrename, mergeFrom_of_error hmerged hrename']
        exact ⟨hmirrors, rfl⟩
      | ok =>
        obtain ⟨hrestMirrors, hrestOutcome⟩ := ih hmirrors hrest
        rw [mergeFrom_of_ok hcase hrename, mergeFrom_of_ok hmerged hrename']
        refine ⟨hrestMirrors, ?_⟩
        rw [hrestOutcome]
        cases (renamed.mergeFrom ids rest).2 <;> rfl

/-- Lists that name no entry twice tell by their places which number goes with which. -/
theorem exists_mirrors {ids' : List EquationId} (hnodup : ids.Nodup) (hnodup' : ids'.Nodup)
    (hlt : ∀ id ∈ ids, id < registry.entries.size) (hlt' : ∀ id ∈ ids', id < registry'.entries.size)
    (hselect : registry'.select ids' = (registry.select ids).map (·.renumber f)) :
    ∃ onId, ids' = ids.map onId ∧ Mirrors f onId registry registry' ids := by
  induction ids generalizing ids' with
  | nil =>
    cases ids' with
    | nil => exact ⟨id, rfl, nofun, nofun⟩
    | cons id' rest' =>
      obtain ⟨equation', hget'⟩ := exists_get?_of_lt (hlt' id' List.mem_cons_self)
      rw [select_cons hget'] at hselect
      cases hselect
  | cons id rest ih =>
    obtain ⟨equation, hget⟩ := exists_get?_of_lt (hlt id List.mem_cons_self)
    rw [select_cons hget, List.map_cons] at hselect
    cases ids' with
    | nil => cases hselect
    | cons id' rest' =>
      obtain ⟨equation', hget'⟩ := exists_get?_of_lt (hlt' id' List.mem_cons_self)
      rw [select_cons hget', List.cons.injEq] at hselect
      obtain ⟨rfl, hselect⟩ := hselect
      rw [List.nodup_cons] at hnodup hnodup'
      obtain ⟨onId, rfl, hmirrors⟩ := ih hnodup.2 hnodup'.2 (List.forall_mem_cons.mp hlt).2
        (List.forall_mem_cons.mp hlt').2 hselect
      have hold : ∀ other ∈ rest, Function.update onId id id' other = onId other := by
        rintro other hother
        apply Function.update_of_ne
        rintro rfl
        exact hnodup.1 hother
      have hfresh : ∀ other ∈ rest, onId other ≠ id' := by
        rintro other hother rfl
        exact hnodup'.1 (List.mem_map_of_mem hother)
      refine ⟨Function.update onId id id', ?_, ?_, ?_⟩
      · rw [List.map_cons, Function.update_self, List.map_congr_left hold]
      · intro other hother last hlast heq
        rcases List.mem_cons.mp hother with rfl | hmem <;> rcases List.mem_cons.mp hlast with rfl | hmem'
        · rfl
        · rw [Function.update_self, hold last hmem'] at heq
          exact absurd heq.symm (hfresh last hmem')
        · rw [Function.update_self, hold other hmem] at heq
          exact absurd heq (hfresh other hmem)
        · rw [hold other hmem, hold last hmem'] at heq
          exact hmirrors.inj other hmem last hmem' heq
      · rw [List.forall_mem_cons, Function.update_self]
        refine ⟨by rw [hget, hget', Option.map_some], ?_⟩
        intro other hother
        rw [hold other hother]
        exact hmirrors.get?_eq other hother

end Registry

namespace Elimination

variable {state state' : Elimination}

/-- **Merging under other numbers.** Equations and answer are those of the merging, renumbered. -/
theorem merge_renumber (hf : StrictMono f)
    (hequations : state'.equations = state.equations.map (·.renumber f)) :
    state'.merge.1.equations = state.merge.1.equations.map (·.renumber f) ∧
      state'.merge.2 = state.merge.2.map (List.map (Prod.map (renumberId f) (renumberId f))) := by
  obtain ⟨onId, hids, hmirrors⟩ := Registry.exists_mirrors state.nodup_ids state'.nodup_ids state.ids_lt
    state'.ids_lt hequations
  obtain ⟨hmerged, houtcome⟩ := hmirrors.mergeFrom hf fun _ hid => hid
  rw [← hids] at hmerged houtcome
  constructor
  · rw [equations, equations]
    exact (congrArg _ hids).trans hmerged.select_eq
  · have houtcome' : (state'.registry.merge state'.ids).2 = _ := houtcome
    simp only [merge, houtcome']
    rw [Registry.merge]
    cases (state.registry.mergeFrom state.ids state.ids).2 <;> rfl

/-- What a merging comes to does not depend on where the equations are kept. -/
theorem merge_congr (hequations : state'.equations = state.equations) :
    state'.merge.1.equations = state.merge.1.equations ∧ state'.merge.2 = state.merge.2 := by
  have hid (equations : Equations) : equations.map (·.renumber id) = equations := by simp
  obtain ⟨hmerged, houtcome⟩ := merge_renumber strictMono_id (hequations.trans (hid state.equations).symm)
  rw [hid] at hmerged
  refine ⟨hmerged, houtcome.trans ?_⟩
  rw [renumberId_id, Prod.map_id, List.map_id_fun]
  cases state.merge.2 <;> rfl

/-- **Only the order of ids counts.** Equating, substituting, normalizing and merging what was renumbered in
strictly increasing fashion comes to the renumbered outcome, with the steps, the mismatch, the last type under
the limit and the renamings renumbered likewise. For merging it does not matter either whether an equation
stands in the list several times. -/
theorem equivariant_of_strictMono (f : Nat → Nat) (hf : StrictMono f) :
    (∀ left right : Ty,
      (left.renumber f).equate (right.renumber f) = renumberResult f (left.equate right)) ∧
    (∀ (equations : Equations) (type : Ty),
      (type.renumber f).substitute (equations.map (·.renumber f)) =
        (type.substitute equations).renumber f) ∧
    (∀ state state' : Elimination, state'.equations = state.equations.map (·.renumber f) →
      ((∀ steps : List Step,
          state'.objection? (steps.map (·.renumber f)) = state.objection? steps) →
        state'.limit = state.limit → ∀ type : Ty,
          (∃ steps, (state.normalize type).1.Extends state steps ∧
            (state'.normalize (type.renumber f)).1.Extends state' (steps.map (·.renumber f))) ∧
          (state'.normalize (type.renumber f)).2 =
            mapOutcome (·.renumber f) (state.normalize type).2) ∧
      state'.merge.1.equations = state.merge.1.equations.map (·.renumber f) ∧
      state'.merge.2 = state.merge.2.map (List.map (Prod.map (renumberId f) (renumberId f)))) ∧
    (∀ (registry registry' : Registry) (ids : List EquationId),
      (∀ id ∈ ids, registry'.get? id = (registry.get? id).map (·.renumber f)) →
        (registry'.merge ids).1.select ids =
          ((registry.merge ids).1.select ids).map (·.renumber f) ∧
        (registry'.merge ids).2 =
          (registry.merge ids).2.map (List.map (Prod.map (renumberId f) (renumberId f)))) := by
  refine ⟨Ty.equate_renumber hf, Ty.substitute_renumber hf, ?_, ?_⟩
  · intro state state' hequations
    refine ⟨?_, merge_renumber hf hequations⟩
    intro hobjections hlimit type
    exact normalize_renumber hf hequations hobjections hlimit type
  · intro registry registry' ids hget
    have hmirrors : Registry.Mirrors f id registry registry' ids := ⟨fun _ _ _ _ heq => heq, hget⟩
    obtain ⟨hmerged, houtcome⟩ := hmirrors.mergeFrom hf fun _ hid => hid
    rw [List.map_id] at hmerged houtcome
    have hselect := hmerged.select_eq
    rw [List.map_id] at hselect
    exact ⟨hselect, houtcome⟩

/-- Three equations and their images under other numbers, among them one that leads back. -/
theorem equivariant_of_strictMono_of_odd :
    let odd : Nat → Nat := fun id => 2 * id + 1
    let state := start ⟨#[⟨0, .var 1⟩, ⟨1, .pair (.var 2) .int⟩, ⟨2, .var 0⟩]⟩ [0, 1, 2] 2 none
    let state' := start ⟨#[⟨5, .var 1⟩, ⟨1, .var 3⟩, ⟨3, .pair (.var 5) .int⟩]⟩ [1, 2, 0] 2 none
    StrictMono odd ∧ state'.equations = state.equations.map (·.renumber odd) ∧
      (Ty.fn (.var 7) .int).equate (.fn (.var 3) .bool) = .error ⟨.int, .bool⟩ ∧
      (state'.normalize (.var 1)).2 = .error (.limitExceeded 2 (.pair (.var 5) .int)) ∧
      state'.merge.1.equations = [⟨1, .var 3⟩, ⟨1, .pair (.var 1) .int⟩, ⟨5, .var 1⟩] := by
  intro odd state state'
  have hodd : StrictMono odd := by
    intro x y hlt
    dsimp only [odd]
    omega
  have hequations : state'.equations = state.equations.map (·.renumber odd) := rfl
  have hnormalize : (state.normalize (.var 0)).2 = .error (.limitExceeded 2 (.pair (.var 2) .int)) := by
    dsimp only [state]
    rfl
  have hmerge : state.merge.1.equations = [⟨0, .var 1⟩, ⟨0, .pair (.var 0) .int⟩, ⟨2, .var 0⟩] := by
    decide
  obtain ⟨hequate, _, helimination, _⟩ := equivariant_of_strictMono odd hodd
  obtain ⟨hrun, hmerged, _⟩ := helimination state state' hequations
  obtain ⟨_, houtcome⟩ := hrun (fun _ => rfl) rfl (.var 0)
  rw [hnormalize] at houtcome
  rw [hmerge] at hmerged
  exact ⟨hodd, hequations, hequate (.fn (.var 3) .int) (.fn (.var 1) .bool), houtcome, hmerged⟩

end Elimination

end TypeEquations
