import TypeEquations.Proofs.Meetings

/-!
# Symmetry of equating

Which type is the left one and which the right one makes no difference but to a mismatch. No equations come
up only between equal types, and each equation defines a variable by a part of one of the types.
-/

namespace TypeEquations

def Mismatch.swap (mismatch : Mismatch) : Mismatch :=
  ⟨mismatch.right, mismatch.left⟩

namespace Meeting

def swap (meeting : Meeting) : Meeting :=
  ⟨meeting.position, meeting.right, meeting.left⟩

theorem clash_swap {meeting : Meeting} : meeting.swap.Clash ↔ meeting.Clash := by
  simp only [Clash, swap]
  tauto

theorem equations_swap (meeting : Meeting) : meeting.swap.equations = meeting.equations := by
  obtain ⟨position, left, right⟩ := meeting
  cases left <;> cases right <;> simp [swap, equations, eq_comm, min_comm, max_comm]

/-- What meetings give does not depend on the order of their parts, but for a mismatch. -/
theorem settle_map_swap (meetings : List Meeting) :
    settle (meetings.map swap) = (settle meetings).mapError Mismatch.swap := by
  have hclash : (fun meeting : Meeting => decide meeting.Clash) ∘ swap =
      fun meeting => decide meeting.Clash := by
    funext meeting
    exact decide_eq_decide.mpr clash_swap
  rw [settle, settle, List.find?_map, hclash, List.flatMap_map]
  simp only [equations_swap]
  cases meetings.find? (·.Clash) <;> rfl

/-- Where types meet, only equal ones give nothing. -/
theorem parts_eq_iff {meeting : Meeting} (hapart : ¬ meeting.left.Alike meeting.right) :
    meeting.left = meeting.right ↔ ¬ meeting.Clash ∧ meeting.equations = [] := by
  obtain ⟨position, left, right⟩ := meeting
  cases left <;> cases right <;> simp_all [Clash, equations, Ty.isVar, Ty.Alike]

theorem rhs_of_mem_equations {meeting : Meeting} {equation : Equation}
    (hmem : equation ∈ meeting.equations) :
    equation.rhs = meeting.left ∨ equation.rhs = meeting.right := by
  obtain ⟨position, left, right⟩ := meeting
  cases left <;> cases right <;> simp_all [equations]
  case var.var x y =>
    rcases Nat.le_total x y with hle | hle <;> simp [hle]

end Meeting

namespace Ty

variable {left right : Ty} {equations : List Equation} {equation : Equation} {mismatch : Mismatch}

/-- The other way round, the types meet at the same positions. -/
theorem meetings_swap (left right : Ty) :
    right.meetings left = (left.meetings right).map Meeting.swap := by
  fun_induction Ty.meetings left right with
  | case1 left right left' right' ihl ihr | case2 left right left' right' ihl ihr =>
    rw [meetings, ihl, ihr]
    simp only [List.map_append, List.map_map]
    rfl
  | case3 left right hfn hpair =>
    rw [meetings_of_not_alike (alike_comm.not.mp (not_alike hfn hpair))]
    rfl

/-- **Equating the other way round.** The equations are the same, or the mismatch is turned round. -/
theorem equate_swap (left right : Ty) :
    right.equate left = (left.equate right).mapError Mismatch.swap := by
  rw [equate_eq_settle, equate_eq_settle, meetings_swap, Meeting.settle_map_swap]

theorem eq_iff_meetings : left = right ↔ ∀ meeting ∈ left.meetings right, meeting.left = meeting.right := by
  fun_induction Ty.meetings left right with
  | case1 left right left' right' ihl ihr =>
    rw [fn.injEq, ihl, ihr, List.forall_mem_append, List.forall_mem_map, List.forall_mem_map]
    rfl
  | case2 left right left' right' ihl ihr =>
    rw [pair.injEq, ihl, ihr, List.forall_mem_append, List.forall_mem_map, List.forall_mem_map]
    rfl
  | case3 left right => rw [List.forall_mem_singleton]

/-- Only equal types need no equation. -/
theorem equate_eq_ok_nil_iff : left.equate right = .ok [] ↔ left = right := by
  rw [equate_eq_ok_iff, eq_iff_meetings, eq_comm, List.flatMap_eq_nil_iff]
  constructor
  · rintro ⟨hcompatible, hnil⟩ meeting hmem
    have hbetween := mem_meetings.mp hmem
    exact (Meeting.parts_eq_iff hbetween.apart).mpr ⟨hcompatible meeting hbetween, hnil meeting hmem⟩
  · intro hsame
    have hnothing : ∀ meeting ∈ left.meetings right, ¬ meeting.Clash ∧ meeting.equations = [] := by
      intro meeting hmem
      exact (Meeting.parts_eq_iff (mem_meetings.mp hmem).apart).mp (hsame meeting hmem)
    exact ⟨fun meeting hbetween => (hnothing meeting (mem_meetings.mpr hbetween)).1,
      fun meeting hmem => (hnothing meeting hmem).2⟩

/-- An equation of two types has a part of one of them as its right side. -/
theorem part?_of_mem_equate (hequate : left.equate right = .ok equations) (hmem : equation ∈ equations) :
    ∃ position, left.part? position = some equation.rhs ∨ right.part? position = some equation.rhs := by
  obtain ⟨-, rfl⟩ := equate_eq_ok_iff.mp hequate
  obtain ⟨meeting, hmeeting, hequation⟩ := List.mem_flatMap.mp hmem
  have hbetween := mem_meetings.mp hmeeting
  refine ⟨meeting.position, ?_⟩
  rcases Meeting.rhs_of_mem_equations hequation with hrhs | hrhs
  · exact .inl (hrhs ▸ hbetween.part_left)
  · exact .inr (hrhs ▸ hbetween.part_right)

end Ty

/-- **Equating is symmetric, and gives nothing only for equal types.** Exchanged types give the same
equations in the same order, or the mismatch exchanged. Each equation defines a variable by a part of one of
the types other than this variable, and by a greater variable if by any. -/
theorem equate_symmetric_exact (left right : Ty) :
    (∀ equations, right.equate left = .ok equations ↔ left.equate right = .ok equations) ∧
    (∀ a b, right.equate left = .error ⟨b, a⟩ ↔ left.equate right = .error ⟨a, b⟩) ∧
    (left.equate right = .ok [] ↔ left = right) ∧
    ∀ equations, left.equate right = .ok equations → ∀ equation ∈ equations,
      ∃ x : Nat, equation.var = x ∧ equation.rhs ≠ .var x ∧
        (∃ position, left.part? position = some equation.rhs ∨
          right.part? position = some equation.rhs) ∧
        ∀ y : Nat, equation.rhs = .var y → x < y := by
  refine ⟨?_, ?_, Ty.equate_eq_ok_nil_iff, ?_⟩
  · intro equations
    rw [Ty.equate_swap left right]
    cases left.equate right <;> simp [Except.mapError]
  · intro a b
    rw [Ty.equate_swap left right]
    cases left.equate right with
    | error mismatch =>
      obtain ⟨a', b'⟩ := mismatch
      simp [Except.mapError, Mismatch.swap, and_comm]
    | ok equations => simp [Except.mapError]
  · intro equations hequate equation hmem
    obtain ⟨x, hvar, -⟩ := Ty.var_of_mem_equate hequate hmem
    have horiented : ∀ y : Nat, equation.rhs = .var y → x < y := by
      intro y hy
      have hlt := Ty.oriented_of_mem_equate hequate hmem y hy
      rw [hvar] at hlt
      exact Int.ofNat_lt.mp hlt
    exact ⟨x, hvar, fun hx => Nat.lt_irrefl x (horiented x hx), Ty.part?_of_mem_equate hequate hmem,
      horiented⟩

/-- Exchanged types with variables on either side, and exchanged types with a clash behind an equation. -/
theorem equate_symmetric_exact_of_exchanged :
    let left : Ty := .fn (.var 7) (.pair .bool (.var 1))
    let right : Ty := .fn (.var 4) (.pair (.var 1) (.fn .int (.var 1)))
    let equations : List Equation := [⟨4, .var 7⟩, ⟨1, .bool⟩, ⟨1, .fn .int (.var 1)⟩]
    right.equate left = .ok equations ∧
      (∃ position, left.part? position = some (.fn .int (.var 1)) ∨
        right.part? position = some (.fn .int (.var 1))) ∧
      (Ty.pair .int (.fn .int .int)).equate (.pair (.var 0) .bool) = .error ⟨.fn .int .int, .bool⟩ := by
  intro left right equations
  obtain ⟨hok, -, -, hparts⟩ := equate_symmetric_exact left right
  obtain ⟨x, -, -, hpart, -⟩ := hparts equations rfl ⟨1, .fn .int (.var 1)⟩ (by decide)
  refine ⟨(hok equations).mpr rfl, hpart, ?_⟩
  exact ((equate_symmetric_exact (.pair (.var 0) .bool) (.pair .int (.fn .int .int))).2.1 _ _).mpr rfl

end TypeEquations
