import TypeEquations.Substitution
import TypeEquations.Proofs.Unfolding

/-!
# One substitution

A substitution finds nothing to do exactly in a type whose variables have no equation. Where it replaces a
variable, it takes one replacement off the unfolding of the type.
-/

namespace TypeEquations

variable {equations : Equations} {type : Ty}

namespace Ty

theorem fired_substitute_eq_none_iff :
    (type.substitute equations).fired = none ↔ ∀ x ∈ type.occurrences, equations.lookup? x = none := by
  induction type with
  | fn left right ihl ihr | pair left right ihl ihr =>
    simp only [occurrences, List.mem_append, or_imp, forall_and, ← ihl, ← ihr, substitute]
    cases hleft : (left.substitute equations).fired <;> simp
  | var x =>
    rw [substitute]
    split <;> simp_all [occurrences]
  | bool | int => simp [substitute, occurrences]

end Ty

namespace Equations

/-- A type is resolved just when nothing fires in it. -/
theorem isResolved_iff_fired :
    equations.isResolved type = true ↔ (type.substitute equations).fired = none := by
  rw [isResolved_iff, Ty.fired_substitute_eq_none_iff]

/-- The replaced variable is the leftmost one with an equation, so on the left nothing is left to unfold
when the right side of a type comes up. -/
theorem unfolds_substitute_iff {result : Ty} {cost : Nat}
    (hfired : (type.substitute equations).fired ≠ none) :
    equations.Unfolds type result cost ↔
      ∃ n, cost = n + 1 ∧ equations.Unfolds (type.substitute equations).type result n := by
  induction type generalizing result cost with
  | fn left right ihl ihr | pair left right ihl ihr =>
    by_cases hleft : (left.substitute equations).fired = none
    · have hright : (right.substitute equations).fired ≠ none := by
        simpa [Ty.substitute, hleft] using hfired
      simp only [Ty.substitute, hleft, Option.isSome_none, Bool.false_eq_true, if_false,
        unfolds_fn_iff, unfolds_pair_iff, ihr hright]
      constructor
      · rintro ⟨left', right', m, _, rfl, rfl, hl, n, rfl, hr⟩
        exact ⟨m + n, rfl, left', right', m, n, rfl, rfl, hl, hr⟩
      · rintro ⟨_, rfl, left', right', m, n, rfl, rfl, hl, hr⟩
        exact ⟨left', right', m, n + 1, rfl, rfl, hl, n, rfl, hr⟩
    · simp only [Ty.substitute, Option.isSome_iff_ne_none, ne_eq, hleft, not_false_eq_true, if_true,
        unfolds_fn_iff, unfolds_pair_iff, ihl hleft]
      constructor
      · rintro ⟨left', right', _, n, rfl, rfl, ⟨m, rfl, hl⟩, hr⟩
        exact ⟨m + n, Nat.add_right_comm .., left', right', m, n, rfl, rfl, hl, hr⟩
      · rintro ⟨_, rfl, left', right', m, n, rfl, rfl, hl, hr⟩
        exact ⟨left', right', m + 1, n, rfl, Nat.add_right_comm .., ⟨m, rfl, hl⟩, hr⟩
  | var x =>
    cases hfound : equations.lookup? x with
    | none => simp [Ty.substitute, hfound] at hfired
    | some equation =>
      have htype : ((Ty.var x).substitute equations).type = equation.rhs := by
        simp [Ty.substitute, hfound]
      rw [htype]
      constructor
      · rintro (_ | _ | hfree | ⟨hfound', hrhs⟩)
        · simp [hfound] at hfree
        · obtain rfl := Option.some.inj (hfound.symm.trans hfound')
          exact ⟨_, rfl, hrhs⟩
      · rintro ⟨n, rfl, hrhs⟩
        exact .defined hfound hrhs
  | bool | int => simp [Ty.substitute] at hfired

end Equations

end TypeEquations
