import TypeEquations.Proofs.MergedRuns
import TypeEquations.Proofs.Mirroring

/-!
# Links after a merging

Merging leaves equations of a variable with itself, and others that lead from a variable to a smaller or to a
greater one. Among the first equations of the variables there is nevertheless no cycle of links: each leads
to a smaller variable, or to one that no equation is left for.
-/

namespace TypeEquations

def Equations.Links (equations : Equations) (x y : Nat) : Prop :=
  ∃ equation, equations.lookup? x = some equation ∧ equation.rhs = .var y

namespace Equations

variable {equations : Equations} {x y : Nat}

theorem links_iff : equations.Links x y ↔ equations.lookup? x = some ⟨x, .var y⟩ := by
  constructor
  · rintro ⟨⟨var, rhs⟩, hfound, hrhs⟩
    obtain rfl : var = x := var_of_lookup? hfound
    obtain rfl : rhs = .var y := hrhs
    exact hfound
  · intro hfound
    exact ⟨_, hfound, rfl⟩

end Equations

namespace Registry

variable {registry : Registry} {ids : List EquationId} {x : Nat}

/-- Links between settled equations never lead back to where they began. -/
theorem Regular.not_transGen_links (hregular : registry.Regular ids)
    (hsettled : ∀ id ∈ ids, registry.Settled ids id) :
    ¬ Relation.TransGen (Equations.Links (registry.select ids)) x x := by
  refine not_transGen_of_descends (s := fun x y => y < x) ?_ Nat.lt_irrefl ?_
  · intro x y z hyx hzy
    exact Nat.lt_trans hzy hyx
  · intro x y z hlink hnext
    -- `y` has an equation, so the link to it goes down
    have hfound := Equations.links_iff.mp hnext
    exact (hregular.lt_or_lookup?_eq_none hsettled (Equations.links_iff.mp hlink)).resolve_right (by simp [hfound])

end Registry

namespace Elimination

variable {state : Elimination}

/-- The equations as they are, under ascending numbers. -/
theorem exists_regular_start (hnatural : ∀ equation ∈ state.equations, 0 ≤ equation.var)
    (horiented : ∀ equation ∈ state.equations, equation.Oriented) :
    ∃ sorted : Elimination, sorted.equations = state.equations ∧ sorted.registry.Regular sorted.ids := by
  have hempty : state.registry.Regular [] := ⟨.nil, nofun, nofun⟩
  have hregular := hempty.addAll nofun
    (fun equation hmem => Int.eq_ofNat_of_zero_le (hnatural equation hmem)) horiented
  exact ⟨start state.registry state.ids state.limit state.listener, equations_start .., hregular⟩

/-- **Merging closes no cycle.** Let the variables of the equations be natural, and those between variables
lead upwards. Merging them comes to an end and leaves no cycle of first equations between variables, so no
equation of a variable with itself is a first one. If the equations have a solution, every type is normalized
under every limit that is great enough. -/
theorem merge_acyclic (state : Elimination) (hnatural : ∀ equation ∈ state.equations, 0 ≤ equation.var)
    (horiented : ∀ equation ∈ state.equations, equation.Oriented) :
    (∃ renamings, state.merge.2 = .ok renamings) ∧
      (∀ x : Nat, ¬ Relation.TransGen state.merge.1.equations.Links x x) ∧
      (∀ x : Nat, state.merge.1.equations.lookup? x ≠ some ⟨x, .var x⟩) ∧
      (state.Quiet → (∃ assignment : Assignment, assignment.Solves state.equations) →
        ∀ type : Ty, ∃ (result : Ty) (bound : Nat), ∀ limit : Int, bound ≤ limit →
          ({ state.merge.1 with limit }.normalize type).2 = .ok result) := by
  obtain ⟨sorted, hsame, hregular⟩ := exists_regular_start hnatural horiented
  obtain ⟨hmerged, houtcome⟩ := merge_congr hsame.symm
  obtain ⟨renamings, hok, hregular', hsettled⟩ := hregular.merge
  have hacyclic (x : Nat) : ¬ Relation.TransGen state.merge.1.equations.Links x x := by
    rw [hmerged]
    exact hregular'.not_transGen_links hsettled
  refine ⟨⟨renamings, ?_⟩, hacyclic, ?_, ?_⟩
  · have hok' : sorted.merge.2 = (sorted.registry.merge sorted.ids).2.mapError Failure.invalidId := rfl
    rw [houtcome, hok', hok]
    rfl
  · intro x hfound
    exact hacyclic x (.single (Equations.links_iff.mpr hfound))
  · rintro hquiet ⟨assignment, hsolves⟩ type
    have hsolves' : assignment.Solves sorted.merge.1.equations := by
      rw [← hsame] at hsolves
      exact (Registry.solves_merge assignment sorted.registry sorted.ids).mpr hsolves
    obtain ⟨result, cost, hunfolds⟩ := Equations.exists_unfolds_of_acyclicFrom
      (hregular'.acyclicFrom_of_settled hsettled hsolves' type)
    have hunfolds' : state.merge.1.equations.Unfolds type result cost := hmerged.symm ▸ hunfolds
    have hquiet' : state.merge.1.Quiet := hquiet
    exact ⟨result, cost, fun limit hle => normalize_of_natCast_le hquiet' hunfolds' hle⟩

/-- One variable is left with an equation of its own, another leads to a smaller one. -/
theorem merge_acyclic_of_five :
    let state := start ⟨#[⟨1, .var 3⟩, ⟨2, .var 3⟩, ⟨1, .var 2⟩, ⟨0, .var 1⟩, ⟨3, .int⟩]⟩ [0, 1, 2, 3, 4] 0 none
    state.merge.1.equations = [⟨0, .var 3⟩, ⟨2, .var 0⟩, ⟨0, .var 0⟩, ⟨0, .var 1⟩, ⟨0, .int⟩] ∧
      (∀ x : Nat, ¬ Relation.TransGen state.merge.1.equations.Links x x) ∧
      ∃ (result : Ty) (bound : Nat), ∀ limit : Int, bound ≤ limit →
        ({ state.merge.1 with limit }.normalize (.var 2)).2 = .ok result := by
  intro state
  have hequations : state.equations = [⟨1, .var 3⟩, ⟨2, .var 3⟩, ⟨1, .var 2⟩, ⟨0, .var 1⟩, ⟨3, .int⟩] := rfl
  have hnatural : ∀ equation ∈ state.equations, 0 ≤ equation.var := by decide
  have horiented : ∀ equation ∈ state.equations, equation.Oriented := by
    rw [hequations]
    simp [Equation.Oriented]
  have hsolves : Assignment.Solves (fun _ => .int) state.equations := by
    rw [hequations]
    simp [Assignment.Solves, Equation.Holds, Ty.image]
  have hmerged : state.merge.1.equations =
      [⟨0, .var 3⟩, ⟨2, .var 0⟩, ⟨0, .var 0⟩, ⟨0, .var 1⟩, ⟨0, .int⟩] := by decide
  have hquiet : state.Quiet := by
    intro listener hlistener
    cases hlistener
  obtain ⟨_, hacyclic, _, hnormalizes⟩ := merge_acyclic state hnatural horiented
  exact ⟨hmerged, hacyclic, hnormalizes hquiet ⟨_, hsolves⟩ (.var 2)⟩

end Elimination

end TypeEquations
