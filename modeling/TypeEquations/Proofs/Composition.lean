import TypeEquations.Proofs.Listening

/-!
# Normalizing composed types

A function or a pair is normalized part by part: all the substitutions of its left part come first, then those
of its right part, each with the other part beside it. So it is normalized exactly if both parts are.
-/

namespace TypeEquations

def Step.within (context : Ty → Ty) (step : Step) : Step :=
  ⟨step.equation, context step.before, context step.after⟩

namespace Equations

variable {equations : Equations} {compose : Ty → Ty → Ty} {type left right : Ty} {step : Step}

theorem substitute_compose (hcompose : compose = Ty.fn ∨ compose = Ty.pair) :
    (compose left right).substitute equations =
      if (left.substitute equations).fired.isSome then
        { left.substitute equations with type := compose (left.substitute equations).type right }
      else
        ⟨compose left (right.substitute equations).type, (right.substitute equations).fired,
          (left.substitute equations).firings ++ (right.substitute equations).firings⟩ := by
  rcases hcompose with rfl | rfl <;> rfl

/-- As long as the left part has a next step, it is the next step of the whole. -/
theorem next?_compose_left (hcompose : compose = Ty.fn ∨ compose = Ty.pair)
    (hnext : Step.next? equations left = some step) :
    Step.next? equations (compose left right) = some (step.within (compose · right)) := by
  obtain ⟨equation, hfired, rfl⟩ := Option.map_eq_some_iff.mp hnext
  rw [Step.next?, substitute_compose hcompose, if_pos (by rw [hfired, Option.isSome_some])]
  simp [hfired, Step.within]

/-- The right part comes up when nothing is left to do in the left one. -/
theorem next?_compose_right (hcompose : compose = Ty.fn ∨ compose = Ty.pair)
    (hresolved : equations.isResolved left = true) :
    Step.next? equations (compose left right) =
      (Step.next? equations right).map (Step.within (compose left)) := by
  have hfired := isResolved_iff_fired.mp hresolved
  rw [Step.next?, substitute_compose hcompose, if_neg (by simp [hfired]), Step.next?, Option.map_map]
  rfl

theorem run_of_isResolved (hresolved : equations.isResolved type = true) (bound : Nat) :
    equations.run bound type = [] := by
  cases bound with
  | zero => rfl
  | succ bound => rw [run, next?_eq_none_iff.mpr hresolved]

/-- A run that has come to an end is the same under every bound that leaves room for it. -/
theorem run_eq_of_isResolved {bound bound' : Nat}
    (hresolved : equations.isResolved (endOf type (equations.run bound type)) = true)
    (hle : (equations.run bound type).length ≤ bound') :
    equations.run bound' type = equations.run bound type := by
  induction bound generalizing type bound' with
  | zero => exact run_of_isResolved hresolved bound'
  | succ bound ih =>
    rw [run] at hresolved hle ⊢
    cases hnext : Step.next? equations type with
    | none => exact run_of_isResolved (next?_eq_none_iff.mp hnext) bound'
    | some step =>
      simp only [hnext, endOf, List.length_cons] at hresolved hle ⊢
      obtain ⟨rest, rfl⟩ := Nat.exists_eq_add_of_le' (Nat.one_le_of_lt hle)
      simp only [run, hnext]
      rw [ih hresolved (Nat.le_of_succ_le_succ hle)]

/-- Induction on the run of the left part; with every step of it the whole type makes the same step. -/
theorem run_compose_left (hcompose : compose = Ty.fn ∨ compose = Ty.pair) (bound rest : Nat) :
    equations.run ((equations.run bound left).length + rest) (compose left right) =
      (equations.run bound left).map (Step.within (compose · right)) ++
        equations.run rest (compose (endOf left (equations.run bound left)) right) := by
  induction bound generalizing left with
  | zero => simp [run, endOf]
  | succ bound ih =>
    rw [run]
    cases hnext : Step.next? equations left with
    | none => simp [endOf]
    | some step =>
      have hstep : Step.next? equations (compose left right) = some (step.within (compose · right)) :=
        next?_compose_left hcompose hnext
      simp only [List.length_cons, Nat.add_right_comm _ 1 rest, run, hstep, endOf, List.map_cons,
        List.cons_append]
      exact congrArg _ ih

/-- Once the left part is resolved, the run is that of the right part. -/
theorem run_compose_right (hcompose : compose = Ty.fn ∨ compose = Ty.pair)
    (hresolved : equations.isResolved left = true) (bound : Nat) :
    equations.run bound (compose left right) =
      (equations.run bound right).map (Step.within (compose left)) := by
  induction bound generalizing right with
  | zero => rfl
  | succ bound ih =>
    rw [run, run, next?_compose_right hcompose hresolved]
    cases hnext : Step.next? equations right with
    | none => rfl
    | some step => exact congrArg _ ih

theorem endOf_append (type : Ty) (steps rest : List Step) :
    endOf type (steps ++ rest) = endOf (endOf type steps) rest := by
  induction steps generalizing type with
  | nil => rfl
  | cons step tail ih => exact ih step.after

theorem endOf_map_within (context : Ty → Ty) (type : Ty) (steps : List Step) :
    endOf (context type) (steps.map (Step.within context)) = context (endOf type steps) := by
  induction steps generalizing type with
  | nil => rfl
  | cons step rest ih => exact ih step.after

theorem isResolved_compose (hcompose : compose = Ty.fn ∨ compose = Ty.pair) :
    equations.isResolved (compose left right) = true ↔
      equations.isResolved left = true ∧ equations.isResolved right = true := by
  rcases hcompose with rfl | rfl <;> simp only [isResolved_iff, Ty.occurrences, List.forall_mem_append]

theorem acyclicFrom_of_compose (hcompose : compose = Ty.fn ∨ compose = Ty.pair)
    (hacyclic : equations.AcyclicFrom (compose left right)) :
    equations.AcyclicFrom left ∧ equations.AcyclicFrom right := by
  have hoccurrences : (compose left right).occurrences = left.occurrences ++ right.occurrences := by
    rcases hcompose with rfl | rfl <;> rfl
  constructor
  · rintro x ⟨y, hy, hpath⟩
    exact hacyclic x ⟨y, hoccurrences ▸ List.mem_append_left _ hy, hpath⟩
  · rintro x ⟨y, hy, hpath⟩
    exact hacyclic x ⟨y, hoccurrences ▸ List.mem_append_right _ hy, hpath⟩

/-- By these equations, and under some limit, the type is normalized with this result and in these steps. -/
def Normalizes (equations : Equations) (type result : Ty) (steps : List Step) : Prop :=
  ∃ state : Elimination, state.equations = equations ∧
    (state.normalize type).2 = .ok result ∧ (state.normalize type).1.Extends state steps

end Equations

namespace Elimination

variable {state : Elimination} {type result : Ty} {steps : List Step}

/-- What is normalized, be it with a listener that objects to other steps, is the end of a full run. -/
theorem replay_of_normalizeWithin_eq_ok {bound : Nat}
    (hok : (state.normalizeWithin type bound).2 = .ok result) :
    (state.normalizeWithin type bound).1 = state.replay (state.equations.run bound type) ∧
      Equations.endOf type (state.equations.run bound type) = result ∧
      state.equations.isResolved result = true := by
  induction bound generalizing state type with
  | zero =>
    rw [normalizeWithin] at hok ⊢
    split at hok <;> rename_i hresolved
    · cases hok
      rw [if_pos hresolved]
      exact ⟨rfl, rfl, hresolved⟩
    · cases hok
  | succ bound ih =>
    rw [normalizeWithin] at hok ⊢
    rw [Equations.run]
    cases hnext : Step.next? state.equations type with
    | none =>
      rw [step_of_next?_eq_none hnext] at hok ⊢
      cases hok
      exact ⟨rfl, rfl, Equations.next?_eq_none_iff.mp hnext⟩
    | some step =>
      rw [step_of_next? hnext] at hok ⊢
      cases hobjection : state.objection? [step] with
      | some text =>
        rw [hobjection] at hok
        cases hok
      | none =>
        rw [hobjection] at hok
        have hrest := ih hok
        rw [equations_recorded] at hrest
        exact hrest

/-- A normalization that ends well took its run to the end. -/
theorem run_of_normalize_eq_ok (hok : (state.normalize type).2 = .ok result)
    (hextends : (state.normalize type).1.Extends state steps) :
    state.equations.run state.limit.toNat type = steps ∧ Equations.endOf type steps = result ∧
      state.equations.isResolved result = true := by
  obtain ⟨hstate, hend, hresolved⟩ := replay_of_normalizeWithin_eq_ok hok
  rw [normalize, hstate] at hextends
  obtain rfl := List.append_cancel_left ((steps_replay ..).symm.trans hextends.1)
  exact ⟨rfl, hend, hresolved⟩

theorem normalize_eq_ok_of_run (hquiet : state.Quiet)
    (hrun : state.equations.run state.limit.toNat type = steps) (hend : Equations.endOf type steps = result)
    (hresolved : state.equations.isResolved result = true) :
    (state.normalize type).2 = .ok result ∧ (state.normalize type).1.Extends state steps := by
  subst hrun hend
  have houtcome := congrArg Prod.snd (normalizeWithin_of_quiet hquiet type state.limit.toNat)
  exact ⟨houtcome.trans (if_pos hresolved), extends_normalize hquiet type⟩

end Elimination

namespace Equations

variable {equations : Equations} {compose : Ty → Ty → Ty} {type result left right : Ty} {steps : List Step}

theorem Normalizes.exists_run (h : equations.Normalizes type result steps) :
    ∃ bound, equations.run bound type = steps ∧ endOf type steps = result ∧
      equations.isResolved result = true := by
  obtain ⟨state, rfl, hok, hextends⟩ := h
  exact ⟨_, Elimination.run_of_normalize_eq_ok hok hextends⟩

/-- A run that ends without variables to replace is an unfolding. -/
theorem Normalizes.acyclicFrom (h : equations.Normalizes type result steps) : equations.AcyclicFrom type := by
  obtain ⟨bound, rfl, rfl, hresolved⟩ := h.exists_run
  have hunfolds := (unfolds_iff_of_run bound).mpr ⟨0, rfl, unfolds_self (isResolved_iff.mp hresolved)⟩
  exact hunfolds.acyclicFrom

/-- Without a cycle some limit is enough. -/
theorem exists_normalizes_of_acyclicFrom (state : Elimination)
    (hacyclic : state.equations.AcyclicFrom type) :
    ∃ result steps, state.equations.Normalizes type result steps := by
  obtain ⟨result, cost, hunfolds⟩ := exists_unfolds_of_acyclicFrom hacyclic
  have hquiet : { state with limit := cost, listener := none }.Quiet := nofun
  obtain ⟨steps, hextends, -, hok⟩ :=
    Elimination.normalize_of_cost_le hquiet hunfolds (Int.toNat_natCast cost).ge
  exact ⟨result, steps, { state with limit := cost, listener := none }, rfl, hok, hextends⟩

/-- Under a bound with room for both runs the run of the left part is followed by that of the right one. -/
theorem run_compose (hcompose : compose = Ty.fn ∨ compose = Ty.pair) {left' right' : Ty} {m n bound : Nat}
    (hleft : endOf left (equations.run m left) = left') (hresolved : equations.isResolved left' = true)
    (hright : endOf right (equations.run n right) = right') (hresolved' : equations.isResolved right' = true)
    (hle : (equations.run m left).length + (equations.run n right).length ≤ bound) :
    equations.run bound (compose left right) =
      (equations.run m left).map (Step.within (compose · right)) ++
        (equations.run n right).map (Step.within (compose left')) := by
  obtain ⟨rest, rfl⟩ := Nat.exists_eq_add_of_le (Nat.le_of_add_right_le hle)
  have hroom : (equations.run n right).length ≤ rest := Nat.le_of_add_le_add_left hle
  subst hleft hright
  calc
    equations.run ((equations.run m left).length + rest) (compose left right) =
        (equations.run m left).map (Step.within (compose · right)) ++
          equations.run rest (compose (endOf left (equations.run m left)) right) :=
      run_compose_left hcompose m rest
    _ = (equations.run m left).map (Step.within (compose · right)) ++
          (equations.run n right).map (Step.within (compose (endOf left (equations.run m left)))) := by
      rw [run_compose_right hcompose hresolved, run_eq_of_isResolved hresolved' hroom]

/-- The two runs one after the other lead to the composed results. -/
theorem endOf_compose {left' right' : Ty} {lefts rights : List Step} (hleft : endOf left lefts = left')
    (hright : endOf right rights = right') :
    endOf (compose left right)
      (lefts.map (Step.within (compose · right)) ++ rights.map (Step.within (compose left'))) =
        compose left' right' := by
  calc
    endOf (compose left right)
        (lefts.map (Step.within (compose · right)) ++ rights.map (Step.within (compose left'))) =
        endOf (endOf (compose left right) (lefts.map (Step.within (compose · right))))
          (rights.map (Step.within (compose left'))) := endOf_append ..
    _ = endOf (compose left' right) (rights.map (Step.within (compose left'))) := by
      rw [endOf_map_within (compose · right), hleft]
    _ = compose left' right' := by
      rw [endOf_map_within (compose left'), hright]

end Equations

/-- **Normalizing is compositional.** If both parts of a function or a pair are normalized under some limits,
then under every limit from the sum of their steps on the whole is normalized to the function or pair of the
results. What is recorded are the steps of the left part beside the right part as it was, then those of the
right part beside the result of the left one. If one part is normalized under no limit, nor is the whole. -/
theorem normalize_compose (equations : Equations) (compose : Ty → Ty → Ty)
    (hcompose : compose = Ty.fn ∨ compose = Ty.pair) (left right : Ty) :
    (∀ left' right' lefts rights, equations.Normalizes left left' lefts →
      equations.Normalizes right right' rights →
      ∀ state : Elimination, state.Quiet → state.equations = equations →
        (lefts.length + rights.length : Nat) ≤ state.limit →
        (state.normalize (compose left right)).2 = .ok (compose left' right') ∧
        (state.normalize (compose left right)).1.Extends state
          (lefts.map (Step.within (compose · right)) ++ rights.map (Step.within (compose left')))) ∧
    ((¬ ∃ left' lefts, equations.Normalizes left left' lefts) ∨
        (¬ ∃ right' rights, equations.Normalizes right right' rights) →
      ¬ ∃ result steps, equations.Normalizes (compose left right) result steps) := by
  constructor
  · intro left' right' lefts rights hleft hright state hquiet hequations hlimit
    obtain ⟨m, rfl, hleft', hresolved⟩ := hleft.exists_run
    obtain ⟨n, rfl, hright', hresolved'⟩ := hright.exists_run
    subst hequations
    apply Elimination.normalize_eq_ok_of_run hquiet
    · apply Equations.run_compose hcompose hleft' hresolved hright' hresolved'
      exact Int.toNat_le_toNat hlimit
    · exact Equations.endOf_compose hleft' hright'
    · exact (Equations.isResolved_compose hcompose).mpr ⟨hresolved, hresolved'⟩
  · rintro hnone ⟨result, steps, hnormalizes⟩
    obtain ⟨hleft, hright⟩ := Equations.acyclicFrom_of_compose hcompose hnormalizes.acyclicFrom
    obtain ⟨state, rfl, -⟩ := hnormalizes
    rcases hnone with hnone | hnone
    · exact hnone (Equations.exists_normalizes_of_acyclicFrom state hleft)
    · exact hnone (Equations.exists_normalizes_of_acyclicFrom state hright)

/-- Two steps on the left and one on the right are just allowed; beside a type that depends on itself nothing
helps. -/
theorem normalize_compose_of_three_steps :
    let equations : Equations := [⟨0, .pair (.var 1) .int⟩, ⟨1, .bool⟩, ⟨2, .fn .int (.var 2)⟩]
    let registry := Registry.empty.addAll equations
    let state := Elimination.start registry.1 registry.2 3 none
    (state.normalize (.pair (.var 0) (.fn (.var 1) (.var 5)))).2 =
        .ok (.pair (.pair .bool .int) (.fn .bool (.var 5))) ∧
      (state.normalize (.pair (.var 0) (.fn (.var 1) (.var 5)))).1.steps.map (·.after) =
        [.pair (.pair (.var 1) .int) (.fn (.var 1) (.var 5)),
          .pair (.pair .bool .int) (.fn (.var 1) (.var 5)),
          .pair (.pair .bool .int) (.fn .bool (.var 5))] ∧
      ¬ ∃ result steps, equations.Normalizes (.fn (.var 0) (.var 2)) result steps := by
  intro equations registry state
  have hquiet : state.Quiet := nofun
  have hequations : state.equations = equations := by
    rw [Elimination.equations_start, Registry.select_addAll]
  have hleft : equations.Normalizes (.var 0) (.pair .bool .int)
      [⟨⟨0, .pair (.var 1) .int⟩, .var 0, .pair (.var 1) .int⟩,
        ⟨⟨1, .bool⟩, .pair (.var 1) .int, .pair .bool .int⟩] := by
    refine ⟨state, hequations, Elimination.normalize_eq_ok_of_run hquiet ?_ rfl ?_⟩
    · rw [hequations]
      rfl
    · rw [hequations]
      rfl
  have hright : equations.Normalizes (.fn (.var 1) (.var 5)) (.fn .bool (.var 5))
      [⟨⟨1, .bool⟩, .fn (.var 1) (.var 5), .fn .bool (.var 5)⟩] := by
    refine ⟨state, hequations, Elimination.normalize_eq_ok_of_run hquiet ?_ rfl ?_⟩
    · rw [hequations]
      rfl
    · rw [hequations]
      rfl
  have hcyclic : ¬ ∃ result steps, equations.Normalizes (.var 2) result steps := by
    rintro ⟨result, steps, hnormalizes⟩
    exact hnormalizes.acyclicFrom 2 ⟨2, by decide, .refl⟩ (.single ⟨⟨2, .fn .int (.var 2)⟩, rfl, by decide⟩)
  obtain ⟨hok, hextends⟩ := (normalize_compose equations .pair (.inr rfl) (.var 0)
    (.fn (.var 1) (.var 5))).1 _ _ _ _ hleft hright state hquiet hequations (by decide)
  refine ⟨hok, by rw [hextends.1]; rfl, ?_⟩
  exact (normalize_compose equations .fn (.inl rfl) (.var 0) (.var 2)).2 (.inr hcyclic)

end TypeEquations
