import TypeEquations.Proofs.Constraints

/-!
# Unifiers

If some assignment unifies all pairs that an elimination accepted, every type is normalized under all large
enough limits; and if no variable was defined twice, normalizing is itself a most general unifier.
-/

namespace TypeEquations

namespace Equations

variable {equations : Equations} {type result : Ty} {cost : Nat}

/-- Every variable as far as it can be unfolded, and as it is where it cannot. -/
noncomputable def unfolding (equations : Equations) : Assignment :=
  open Classical in fun x =>
    if h : ∃ result cost, equations.Unfolds (.var x.toNat) result cost then h.choose else .var x.toNat

theorem unfolding_of_unfolds {x : Nat} (h : equations.Unfolds (.var x) result cost) :
    equations.unfolding x = result := by
  have hexists : ∃ result cost, equations.Unfolds (.var (x : Int).toNat) result cost := ⟨_, _, h⟩
  rw [unfolding, dif_pos hexists]
  obtain ⟨cost', hchosen⟩ := hexists.choose_spec
  exact (hchosen.unique h).1

/-- To unfold a type is to unfold its variables at once. -/
theorem Unfolds.eq_image (h : equations.Unfolds type result cost) :
    result = type.image equations.unfolding := by
  induction h with
  | fn _ _ ihl ihr => rw [Ty.image, ← ihl, ← ihr]
  | pair _ _ ihl ihr => rw [Ty.image, ← ihl, ← ihr]
  | free hfree => exact (unfolding_of_unfolds (.free hfree)).symm
  | defined hfound hrhs => exact (unfolding_of_unfolds (.defined hfound hrhs)).symm
  | bool | int => rfl

/-- With one equation for a variable, the first is all there is to solve. -/
theorem unfolding_solves (hdistinct : (equations.map (·.var)).Nodup)
    (hunfolds : ∀ equation ∈ equations, ∃ x : Nat, equation.var = x ∧
      ∃ result cost, equations.Unfolds (.var x) result cost) :
    equations.unfolding.Solves equations := by
  intro equation hmem
  obtain ⟨x, hvar, result, cost, hunfold⟩ := hunfolds equation hmem
  have hfirst : equations.lookup? x = some equation := hvar ▸ lookup?_var hdistinct hmem
  rw [Equation.Holds, hvar, unfolding_of_unfolds hunfold]
  cases hunfold with
  | free hfree => simp [hfirst] at hfree
  | defined hfound hrhs =>
    obtain rfl := Option.some.inj (hfirst.symm.trans hfound)
    exact hrhs.eq_image

end Equations

namespace Elimination

variable {state : Elimination} {pairs : List (Ty × Ty)}

theorem describes_constrainAll_of_empty (hempty : state.equations = []) (pairs : List (Ty × Ty)) :
    (state.constrainAll pairs).1.equations.Describes (state.constrainAll pairs).2 :=
  describes_constrainAll (hempty ▸ Equations.describes_nil) pairs

/-- Where some assignment unifies the accepted pairs, every type can be unfolded. -/
theorem exists_unfolds_of_unifies (hempty : state.equations = []) {assignment : Assignment}
    (hunifies : assignment.Unifies (state.constrainAll pairs).2) (type : Ty) :
    ∃ result cost, (state.constrainAll pairs).1.equations.Unfolds type result cost := by
  have hdescribes := describes_constrainAll_of_empty hempty pairs
  have hsolves := (hdescribes.solves_iff assignment).mpr hunifies
  exact Equations.exists_unfolds_of_acyclicFrom
    (Equations.acyclicFrom_of_solves hsolves hdescribes.oriented type)

theorem normalize_of_natCast_le (hquiet : state.Quiet) {type result : Ty} {cost : Nat}
    (hunfolds : state.equations.Unfolds type result cost) {limit : Int} (hle : cost ≤ limit) :
    ({ state with limit }.normalize type).2 = .ok result := by
  have hquiet' : { state with limit }.Quiet := hquiet
  obtain ⟨_, _, _, hok⟩ := normalize_of_cost_le hquiet' hunfolds (by simp; omega)
  exact hok

/-- What normalizing returns is the unfolded type. -/
theorem unfolds_of_normalize_eq_ok (hquiet : state.Quiet) {type result : Ty} {limit : Int}
    (hok : ({ state with limit }.normalize type).2 = .ok result) :
    ∃ cost, state.equations.Unfolds type result cost := by
  have hquiet' : { state with limit }.Quiet := hquiet
  obtain ⟨result', cost, hunfolds⟩ :=
    Equations.exists_unfolds_of_acyclicFrom (acyclicFrom_of_normalize_eq_ok hquiet' hok)
  refine ⟨cost, ?_⟩
  by_cases hle : cost ≤ limit.toNat
  · obtain ⟨_, _, _, hok'⟩ := normalize_of_cost_le hquiet' hunfolds hle
    obtain rfl := Except.ok.inj (hok'.symm.trans hok)
    exact hunfolds
  · have hlong : ∀ result' cost', state.equations.Unfolds type result' cost' → limit.toNat < cost' := by
      intro result' cost' hunfolds'
      obtain ⟨rfl, rfl⟩ := hunfolds'.unique hunfolds
      exact Nat.not_le.mp hle
    obtain ⟨_, _, _, herror⟩ := normalize_of_forall_limit_lt hquiet' hlong
    rw [herror] at hok
    cases hok

theorem exists_unfolds_of_normalize_eq_ok (hquiet : state.Quiet) {type result : Ty} {limit : Int}
    (hok : ({ state with limit }.normalize type).2 = .ok result) :
    ∃ result cost, state.equations.Unfolds type result cost :=
  ⟨result, unfolds_of_normalize_eq_ok hquiet hok⟩

/-- Of finitely many types that unfold, a limit that is enough for each. -/
theorem exists_limit_of_exists_unfolds (hquiet : state.Quiet) (types : List Ty)
    (hunfolds : ∀ type ∈ types, ∃ result cost, state.equations.Unfolds type result cost) :
    ∃ bound : Nat, ∀ limit : Int, bound ≤ limit →
      ∀ type ∈ types, ∃ result, ({ state with limit }.normalize type).2 = .ok result := by
  induction types with
  | nil => exact ⟨0, by simp⟩
  | cons type rest ih =>
    obtain ⟨⟨result, cost, hunfold⟩, hrest⟩ := List.forall_mem_cons.mp hunfolds
    obtain ⟨bound, hbound⟩ := ih hrest
    refine ⟨max cost bound, ?_⟩
    intro limit hle
    have hcost : cost ≤ limit := by omega
    have hbound' : bound ≤ limit := by omega
    exact List.forall_mem_cons.mpr
      ⟨⟨result, normalize_of_natCast_le hquiet hunfold hcost⟩, hbound limit hbound'⟩

/-- **Unifiable constraints always normalize.** -/
theorem normalize_eq_ok_of_unifies (state : Elimination) (hempty : state.equations = [])
    (hquiet : state.Quiet) (pairs : List (Ty × Ty)) :
    let constrained := (state.constrainAll pairs).1
    let accepted := (state.constrainAll pairs).2
    ((∃ assignment : Assignment, assignment.Unifies accepted) →
      ∀ type, ∃ (result : Ty) (bound : Nat), ∀ limit : Int, bound ≤ limit →
        ({ constrained with limit }.normalize type).2 = .ok result) ∧
    ∀ type, (∀ limit : Int, ∃ last,
        ({ constrained with limit }.normalize type).2 = .error (.limitExceeded limit last)) →
      ¬ ∃ assignment : Assignment, assignment.Unifies accepted := by
  intro constrained accepted
  have hquiet' : constrained.Quiet := hquiet.constrainAll pairs
  have hnormalize : (∃ assignment : Assignment, assignment.Unifies accepted) →
      ∀ type, ∃ (result : Ty) (bound : Nat), ∀ limit : Int, bound ≤ limit →
        ({ constrained with limit }.normalize type).2 = .ok result := by
    rintro ⟨assignment, hunifies⟩ type
    obtain ⟨result, cost, hunfolds⟩ := exists_unfolds_of_unifies hempty hunifies type
    refine ⟨result, cost, ?_⟩
    intro limit hle
    exact normalize_of_natCast_le hquiet' hunfolds hle
  refine ⟨hnormalize, ?_⟩
  intro type hexceeds hunifiable
  obtain ⟨result, bound, hok⟩ := hnormalize hunifiable type
  obtain ⟨last, herror⟩ := hexceeds bound
  have hreturns := hok bound (Int.le_refl _)
  rw [herror] at hreturns
  cases hreturns

/-- A variable with two equations, one of them for nothing, and a constraint rejected in between. -/
theorem normalize_eq_ok_of_unifies_of_two_equations :
    let pairs : List (Ty × Ty) :=
      [(.var 2, .fn (.var 0) (.var 1)), (.int, .bool), (.fn (.var 1) .int, .var 2)]
    let state := start Registry.empty [] 0 none
    let constrained := (state.constrainAll pairs).1
    (state.constrainAll pairs).2 = [(.var 2, .fn (.var 0) (.var 1)), (.fn (.var 1) .int, .var 2)] ∧
      ∀ type, ∃ (result : Ty) (bound : Nat), ∀ limit : Int, bound ≤ limit →
        ({ constrained with limit }.normalize type).2 = .ok result := by
  intro pairs state constrained
  have haccepted : (state.constrainAll pairs).2 =
      [(.var 2, .fn (.var 0) (.var 1)), (.fn (.var 1) .int, .var 2)] := rfl
  refine ⟨haccepted, (normalize_eq_ok_of_unifies state rfl nofun pairs).1
    ⟨fun x => if x = 2 then .fn .int .int else .int, ?_⟩⟩
  rw [haccepted]
  simp [Assignment.Unifies, Ty.image]

/-- All variables with equations come from the pairs, so they unfold when the types of the pairs do. -/
theorem unfolding_unifies (hempty : state.equations = [])
    (haccepted : (state.constrainAll pairs).2 = pairs)
    (hdistinct : ((state.constrainAll pairs).1.equations.map (·.var)).Nodup)
    (hunfolds : ∀ types ∈ pairs,
      (∃ result cost, (state.constrainAll pairs).1.equations.Unfolds types.1 result cost) ∧
        ∃ result cost, (state.constrainAll pairs).1.equations.Unfolds types.2 result cost) :
    (state.constrainAll pairs).1.equations.unfolding.Unifies pairs := by
  have hdescribes := describes_constrainAll_of_empty hempty pairs
  rw [haccepted] at hdescribes
  apply (hdescribes.solves_iff _).mp
  apply Equations.unfolding_solves hdistinct
  intro equation hmem
  obtain ⟨types, htypes, x, hvar, hx⟩ := hdescribes.var_mem equation hmem
  obtain ⟨⟨_, _, hleft⟩, ⟨_, _, hright⟩⟩ := hunfolds types htypes
  refine ⟨x, hvar, ?_⟩
  rcases hx with hx | hx
  · exact hleft.exists_of_mem_occurrences hx
  · exact hright.exists_of_mem_occurrences hx

/-- **Most general unifier.** Of accepted constraints that define no variable twice, one limit suffices for
all types exactly if the pairs have a unifier, and then normalizing is a most general one. -/
theorem normalize_mostGeneral (state : Elimination) (hempty : state.equations = [])
    (hquiet : state.Quiet) (pairs : List (Ty × Ty)) (haccepted : (state.constrainAll pairs).2 = pairs)
    (hdistinct : ((state.constrainAll pairs).1.equations.map (·.var)).Nodup) :
    let constrained := (state.constrainAll pairs).1
    ((∃ assignment : Assignment, assignment.Unifies pairs) ↔
      ∃ limit : Int, ∀ types ∈ pairs,
        (∃ result, ({ constrained with limit }.normalize types.1).2 = .ok result) ∧
          ∃ result, ({ constrained with limit }.normalize types.2).2 = .ok result) ∧
    ((∃ assignment : Assignment, assignment.Unifies pairs) →
      ∃ normal : Ty → Ty,
        (∀ type, ∃ bound : Nat, ∀ limit : Int, bound ≤ limit →
          ({ constrained with limit }.normalize type).2 = .ok (normal type)) ∧
        (∀ types ∈ pairs, normal types.1 = normal types.2) ∧
        ∀ assignment : Assignment, assignment.Unifies pairs →
          ∀ type, type.image assignment = (normal type).image assignment) := by
  intro constrained
  have hquiet' : constrained.Quiet := hquiet.constrainAll pairs
  have hdescribes := describes_constrainAll_of_empty hempty pairs
  rw [haccepted] at hdescribes
  have hunfolds : (∃ assignment : Assignment, assignment.Unifies pairs) →
      ∀ type, ∃ result cost, constrained.equations.Unfolds type result cost := by
    rintro ⟨assignment, hunifies⟩
    exact exists_unfolds_of_unifies hempty (haccepted.symm ▸ hunifies)
  refine ⟨⟨?_, ?_⟩, ?_⟩
  · intro hunifiable
    obtain ⟨bound, hbound⟩ := exists_limit_of_exists_unfolds hquiet'
      (pairs.map (·.1) ++ pairs.map (·.2)) fun type _ => hunfolds hunifiable type
    refine ⟨bound, ?_⟩
    intro types htypes
    have hreturns := hbound bound (Int.le_refl _)
    exact ⟨hreturns types.1 (List.mem_append_left _ (List.mem_map_of_mem htypes)),
      hreturns types.2 (List.mem_append_right _ (List.mem_map_of_mem htypes))⟩
  · rintro ⟨limit, hok⟩
    refine ⟨constrained.equations.unfolding, unfolding_unifies hempty haccepted hdistinct ?_⟩
    intro types htypes
    obtain ⟨⟨left, hleft⟩, ⟨right, hright⟩⟩ := hok types htypes
    exact ⟨exists_unfolds_of_normalize_eq_ok hquiet' hleft,
      exists_unfolds_of_normalize_eq_ok hquiet' hright⟩
  · intro hunifiable
    have hunifies : constrained.equations.unfolding.Unifies pairs := by
      apply unfolding_unifies hempty haccepted hdistinct
      intro types _
      exact ⟨hunfolds hunifiable types.1, hunfolds hunifiable types.2⟩
    choose normal cost hnormal using hunfolds hunifiable
    refine ⟨normal, ?_, ?_, ?_⟩
    · intro type
      refine ⟨cost type, ?_⟩
      intro limit hle
      exact normalize_of_natCast_le hquiet' (hnormal type) hle
    · intro types htypes
      calc
        normal types.1 = types.1.image constrained.equations.unfolding := (hnormal types.1).eq_image
        _ = types.2.image constrained.equations.unfolding := hunifies types htypes
        _ = normal types.2 := (hnormal types.2).eq_image.symm
    · intro assignment hassignment type
      have hsolves := (hdescribes.solves_iff assignment).mpr hassignment
      exact ((hnormal type).image_eq hsolves).symm

/-- One variable is defined by a pair around the other. -/
theorem normalize_mostGeneral_of_nested :
    let pairs : List (Ty × Ty) := [(.fn (.var 0) (.var 1), .fn (.pair (.var 1) .int) .bool)]
    let state := start Registry.empty [] 0 none
    let constrained := (state.constrainAll pairs).1
    (state.constrainAll pairs).2 = pairs ∧ (constrained.equations.map (·.var)).Nodup ∧
      ∃ normal : Ty → Ty,
        (∀ type, ∃ bound : Nat, ∀ limit : Int, bound ≤ limit →
          ({ constrained with limit }.normalize type).2 = .ok (normal type)) ∧
        normal (.fn (.var 0) (.var 1)) = normal (.fn (.pair (.var 1) .int) .bool) := by
  intro pairs state constrained
  have haccepted : (state.constrainAll pairs).2 = pairs := rfl
  have hdistinct : (constrained.equations.map (·.var)).Nodup := by decide
  obtain ⟨normal, hnormal, hequal, _⟩ :=
    (normalize_mostGeneral state rfl nofun pairs haccepted hdistinct).2
      ⟨fun x => if x = 0 then .pair .bool .int else .bool, by simp [pairs, Assignment.Unifies, Ty.image]⟩
  exact ⟨haccepted, hdistinct, normal, hnormal, hequal _ (List.mem_singleton_self _)⟩

end Elimination

end TypeEquations
