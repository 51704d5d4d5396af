import TypeEquations.Proofs.Equating
import TypeEquations.Proofs.Position

/-!
# Meetings

Two types go on together from the root as long as both are functions or both are pairs. They meet where this
ends. Their meetings from left to right tell all that equating them gives: the equations of one meeting after
the other, or the first meeting that is a clash.
-/

namespace TypeEquations

structure Meeting where
  position : Position
  left : Ty
  right : Ty

namespace Ty

def Alike : Ty → Ty → Prop
  | fn _ _, fn _ _ => True
  | pair _ _, pair _ _ => True
  | _, _ => False

def isVar : Ty → Bool
  | var _ => true
  | _ => false

end Ty

namespace Meeting

/-- At all positions above this one the parts are alike, and here they are not. -/
structure Between (meeting : Meeting) (left right : Ty) : Prop where
  part_left : left.part? meeting.position = some meeting.left
  part_right : right.part? meeting.position = some meeting.right
  above : ∀ prior, prior <+: meeting.position → prior ≠ meeting.position →
    ∃ left' right', left.part? prior = some left' ∧ right.part? prior = some right' ∧ left'.Alike right'
  apart : ¬ meeting.left.Alike meeting.right

def Clash (meeting : Meeting) : Prop :=
  meeting.left.isVar = false ∧ meeting.right.isVar = false ∧
    ¬ (meeting.left = .bool ∧ meeting.right = .bool) ∧ ¬ (meeting.left = .int ∧ meeting.right = .int)

instance (meeting : Meeting) : Decidable meeting.Clash :=
  inferInstanceAs (Decidable (_ ∧ _ ∧ _ ∧ _))

/-- Of two variables the smaller one is defined by the greater one; a variable is defined by anything else. -/
def equations (meeting : Meeting) : List Equation :=
  match meeting.left, meeting.right with
  | .var x, .var y => if x = y then [] else [⟨(min x y : Nat), .var (max x y)⟩]
  | .var x, type => [⟨x, type⟩]
  | type, .var x => [⟨x, type⟩]
  | _, _ => []

def below (side : Side) (meeting : Meeting) : Meeting :=
  { meeting with position := side :: meeting.position }

def settle (meetings : List Meeting) : Except Mismatch (List Equation) :=
  match meetings.find? (·.Clash) with
  | some meeting => .error ⟨meeting.left, meeting.right⟩
  | none => .ok (meetings.flatMap equations)

variable {meeting : Meeting} {meetings : List Meeting}

theorem settle_eq_ok_iff {equations : List Equation} :
    settle meetings = .ok equations ↔
      (∀ meeting ∈ meetings, ¬ meeting.Clash) ∧ equations = meetings.flatMap Meeting.equations := by
  have hnone : meetings.find? (·.Clash) = none ↔ ∀ meeting ∈ meetings, ¬ meeting.Clash := by
    simp [List.find?_eq_none]
  rw [settle, ← hnone]
  cases meetings.find? (·.Clash) <;> simp [eq_comm]

theorem settle_eq_error_iff {mismatch : Mismatch} :
    settle meetings = .error mismatch ↔
      ∃ meeting, meetings.find? (·.Clash) = some meeting ∧ mismatch = ⟨meeting.left, meeting.right⟩ := by
  rw [settle]
  cases meetings.find? (·.Clash) <;> simp [eq_comm]

/-- Settling goes from left to right and stops at the first clash. -/
theorem settle_append (meetings meetings' : List Meeting) :
    settle (meetings ++ meetings') = do
      let lefts ← settle meetings
      let rights ← settle meetings'
      return lefts ++ rights := by
  simp only [settle, List.find?_append, List.flatMap_append]
  cases meetings.find? (·.Clash) <;> cases meetings'.find? (·.Clash) <;> rfl

/-- What meetings give does not depend on where they are. -/
theorem settle_map_below (side : Side) (meetings : List Meeting) :
    settle (meetings.map (below side)) = settle meetings := by
  have hclash : (fun meeting : Meeting => decide meeting.Clash) ∘ below side =
      fun meeting => decide meeting.Clash := rfl
  have hequations : (meetings.map (below side)).flatMap equations = meetings.flatMap equations := by
    rw [List.flatMap_map]
    rfl
  rw [settle, settle, List.find?_map, hclash, hequations]
  cases meetings.find? (·.Clash) <;> rfl

section Between

variable {left right left₁ left₂ right₁ right₂ : Ty} {meeting : Meeting}

theorem Between.eq_of_root (h : Between ⟨[], left₁, right₁⟩ left right) : left₁ = left ∧ right₁ = right :=
  ⟨(Option.some.inj ((Ty.part?_nil left).symm.trans h.part_left)).symm,
    (Option.some.inj ((Ty.part?_nil right).symm.trans h.part_right)).symm⟩

theorem Between.alike (h : meeting.Between left right) (hbelow : meeting.position ≠ []) :
    left.Alike right := by
  obtain ⟨left', right', hleft, hright, halike⟩ := h.above [] List.nil_prefix hbelow.symm
  rw [Ty.part?_nil, Option.some.injEq] at hleft hright
  subst hleft hright
  exact halike

/-- From alike types the meetings are handed down to the parts on either side. -/
theorem between_below_iff (halike : left.Alike right) {side : Side}
    (hleft : ∀ rest, left.part? (side :: rest) = left₁.part? rest)
    (hright : ∀ rest, right.part? (side :: rest) = right₁.part? rest) :
    (meeting.below side).Between left right ↔ meeting.Between left₁ right₁ := by
  constructor
  · rintro ⟨hpart, hpart', habove, hapart⟩
    refine ⟨(hleft _).symm.trans hpart, (hright _).symm.trans hpart', fun prior hprior hne => ?_, hapart⟩
    have hparts := habove (side :: prior) (List.cons_prefix_cons.mpr ⟨rfl, hprior⟩)
      (fun heq => hne (List.cons.inj heq).2)
    rwa [hleft, hright] at hparts
  · rintro ⟨hpart, hpart', habove, hapart⟩
    refine ⟨(hleft _).trans hpart, (hright _).trans hpart', fun prior hprior hne => ?_, hapart⟩
    rcases List.prefix_cons_iff.mp hprior with rfl | ⟨rest, rfl, hrest⟩
    · exact ⟨left, right, left.part?_nil, right.part?_nil, halike⟩
    · rw [hleft, hright]
      exact habove rest hrest fun heq => hne (congrArg _ heq)

/-- Types that are alike meet where their parts meet. -/
theorem between_iff_of_alike (halike : left.Alike right)
    (hleft₁ : ∀ rest, left.part? (.left :: rest) = left₁.part? rest)
    (hleft₂ : ∀ rest, left.part? (.right :: rest) = left₂.part? rest)
    (hright₁ : ∀ rest, right.part? (.left :: rest) = right₁.part? rest)
    (hright₂ : ∀ rest, right.part? (.right :: rest) = right₂.part? rest) :
    meeting.Between left right ↔
      (∃ inner : Meeting, inner.Between left₁ right₁ ∧ inner.below .left = meeting) ∨
        ∃ inner : Meeting, inner.Between left₂ right₂ ∧ inner.below .right = meeting := by
  constructor
  · intro h
    obtain ⟨position, leftPart, rightPart⟩ := meeting
    rcases position with _ | ⟨_ | _, position⟩
    · -- at the root they are still alike
      obtain ⟨rfl, rfl⟩ := h.eq_of_root
      exact absurd halike h.apart
    · exact .inl ⟨⟨position, leftPart, rightPart⟩, (between_below_iff halike hleft₁ hright₁).mp h, rfl⟩
    · exact .inr ⟨⟨position, leftPart, rightPart⟩, (between_below_iff halike hleft₂ hright₂).mp h, rfl⟩
  · rintro (⟨inner, hinner, rfl⟩ | ⟨inner, hinner, rfl⟩)
    · exact (between_below_iff halike hleft₁ hright₁).mpr hinner
    · exact (between_below_iff halike hleft₂ hright₂).mpr hinner

theorem between_iff_of_not_alike (hapart : ¬ left.Alike right) :
    meeting.Between left right ↔ meeting = ⟨[], left, right⟩ := by
  constructor
  · intro h
    obtain ⟨position, leftPart, rightPart⟩ := meeting
    cases position with
    | nil =>
      obtain ⟨rfl, rfl⟩ := h.eq_of_root
      rfl
    | cons side rest => exact absurd (h.alike (List.cons_ne_nil _ _)) hapart
  · rintro rfl
    refine ⟨left.part?_nil, right.part?_nil, fun prior hprior hne => ?_, hapart⟩
    exact absurd (List.prefix_nil.mp hprior) hne

end Between

end Meeting

namespace Ty

def meetings : Ty → Ty → List Meeting
  | fn left right, fn left' right' =>
    (left.meetings left').map (.below .left) ++ (right.meetings right').map (.below .right)
  | pair left right, pair left' right' =>
    (left.meetings left').map (.below .left) ++ (right.meetings right').map (.below .right)
  | left, right => [⟨[], left, right⟩]

theorem alike_comm {left right : Ty} : left.Alike right ↔ right.Alike left := by
  cases left <;> cases right <;> rfl

theorem meetings_of_not_alike {left right : Ty} (hapart : ¬ left.Alike right) :
    left.meetings right = [⟨[], left, right⟩] := by
  cases left <;> cases right <;> try rfl
  case fn.fn | pair.pair => exact absurd trivial hapart

theorem equate_of_not_alike {left right : Ty} (hapart : ¬ left.Alike right) :
    left.equate right = Meeting.settle [⟨[], left, right⟩] := by
  cases left <;> cases right <;> try rfl
  case fn.fn | pair.pair => exact absurd trivial hapart
  case var.var x y =>
    have hsettle : Meeting.settle [⟨[], var x, var y⟩] = .ok (Meeting.equations ⟨[], var x, var y⟩) := by
      simp [Meeting.settle, Meeting.Clash, isVar]
    rw [equate, hsettle, Meeting.equations]
    rcases Nat.lt_trichotomy x y with hlt | rfl | hgt
    · simp [hlt, hlt.ne, hlt.le]
    · simp
    · simp [hgt, hgt.ne', hgt.le, Nat.lt_asymm hgt]

theorem not_alike {left right : Ty}
    (hfn : ∀ a b a' b', left = .fn a b → right = .fn a' b' → False)
    (hpair : ∀ a b a' b', left = .pair a b → right = .pair a' b' → False) : ¬ left.Alike right := by
  unfold Alike
  split
  · exact absurd rfl (hfn _ _ _ _ rfl)
  · exact absurd rfl (hpair _ _ _ _ rfl)
  · exact not_false

/-- **Equating is settling.** The recursion on two types comes to one pass over their meetings. -/
theorem equate_eq_settle (left right : Ty) : left.equate right = Meeting.settle (left.meetings right) := by
  fun_induction Ty.meetings left right with
  | case1 left right left' right' ihl ihr | case2 left right left' right' ihl ihr =>
    rw [equate, ihl, ihr, Meeting.settle_append, Meeting.settle_map_below, Meeting.settle_map_below]
  | case3 left right hfn hpair => exact equate_of_not_alike (not_alike hfn hpair)

/-- The list holds all meetings of the two types and nothing else. -/
theorem mem_meetings {left right : Ty} {meeting : Meeting} :
    meeting ∈ left.meetings right ↔ meeting.Between left right := by
  fun_induction Ty.meetings left right generalizing meeting with
  | case1 left right left' right' ihl ihr | case2 left right left' right' ihl ihr =>
    simp only [List.mem_append, List.mem_map, ihl, ihr]
    symm
    apply Meeting.between_iff_of_alike
    · exact trivial
    all_goals exact fun _ => rfl
  | case3 left right hfn hpair =>
    rw [List.mem_singleton, Meeting.between_iff_of_not_alike (not_alike hfn hpair)]

/-- In the list the meetings stand from left to right. -/
theorem pairwise_meetings (left right : Ty) :
    (left.meetings right).Pairwise (·.position.LeftOf ·.position) := by
  fun_induction Ty.meetings left right with
  | case1 left right left' right' ihl ihr | case2 left right left' right' ihl ihr =>
    rw [List.pairwise_append, List.pairwise_map, List.pairwise_map]
    refine ⟨ihl.imp (by simp [Meeting.below]), ihr.imp (by simp [Meeting.below]), ?_⟩
    intro meeting hmeeting other hother
    obtain ⟨inner, -, rfl⟩ := List.mem_map.mp hmeeting
    obtain ⟨inner', -, rfl⟩ := List.mem_map.mp hother
    simp [Meeting.below]
  | case3 left right => exact List.pairwise_singleton _ _

end Ty

structure Meeting.FirstClash (meeting : Meeting) (left right : Ty) : Prop where
  between : meeting.Between left right
  clash : meeting.Clash
  first : ∀ other : Meeting, other.Between left right → other.Clash →
    other = meeting ∨ meeting.position.LeftOf other.position

namespace Ty

def Compatible (left right : Ty) : Prop :=
  ∀ meeting : Meeting, meeting.Between left right → ¬ meeting.Clash

variable {left right : Ty} {meeting : Meeting} {mismatch : Mismatch} {equations : List Equation}

theorem firstClash_of_find? (hfind : (left.meetings right).find? (·.Clash) = some meeting) :
    meeting.FirstClash left right := by
  obtain ⟨hclash, before, after, hsplit, hbefore⟩ := List.find?_eq_some_iff_append.mp hfind
  have hmem : meeting ∈ left.meetings right := List.mem_of_find?_eq_some hfind
  refine ⟨mem_meetings.mp hmem, by simpa using hclash, fun other hother hclash' => ?_⟩
  have hpairwise := pairwise_meetings left right
  rw [← mem_meetings, hsplit, List.mem_append, List.mem_cons] at hother
  rw [hsplit, List.pairwise_append, List.pairwise_cons] at hpairwise
  rcases hother with hother | rfl | hother
  · exact absurd hclash' (by simpa using hbefore other hother)
  · exact .inl rfl
  · exact .inr (hpairwise.2.1.1 other hother)

/-- The first clash that is found is the leftmost one. -/
theorem find?_meetings_eq_some_iff :
    (left.meetings right).find? (·.Clash) = some meeting ↔ meeting.FirstClash left right := by
  refine ⟨firstClash_of_find?, fun hfirst => ?_⟩
  have hsome : ((left.meetings right).find? (·.Clash)).isSome = true := by
    rw [List.find?_isSome]
    exact ⟨meeting, mem_meetings.mpr hfirst.between, decide_eq_true hfirst.clash⟩
  obtain ⟨other, hother⟩ := Option.isSome_iff_exists.mp hsome
  have hfirst' := firstClash_of_find? hother
  -- each of the two is the other, or to the left of it
  rcases hfirst.first other hfirst'.between hfirst'.clash with rfl | hleftOf
  · exact hother
  · rcases hfirst'.first meeting hfirst.between hfirst.clash with rfl | hleftOf'
    · exact hother
    · exact absurd hleftOf' hleftOf.asymm

theorem equate_eq_ok_iff :
    left.equate right = .ok equations ↔
      left.Compatible right ∧ equations = (left.meetings right).flatMap Meeting.equations := by
  simp only [equate_eq_settle, Meeting.settle_eq_ok_iff, mem_meetings, Compatible]

/-- The mismatch of two types is their leftmost clash. -/
theorem equate_eq_error_iff :
    left.equate right = .error mismatch ↔
      ∃ meeting : Meeting, meeting.FirstClash left right ∧ mismatch = ⟨meeting.left, meeting.right⟩ := by
  simp only [equate_eq_settle, Meeting.settle_eq_error_iff, find?_meetings_eq_some_iff]

theorem exists_equate_eq_error_iff :
    (∃ mismatch, left.equate right = .error mismatch) ↔
      ∃ meeting : Meeting, meeting.Between left right ∧ meeting.Clash := by
  constructor
  · rintro ⟨mismatch, herror⟩
    obtain ⟨meeting, hfirst, -⟩ := equate_eq_error_iff.mp herror
    exact ⟨meeting, hfirst.between, hfirst.clash⟩
  · rintro ⟨meeting, hbetween, hclash⟩
    cases hequate : left.equate right with
    | error mismatch => exact ⟨mismatch, rfl⟩
    | ok equations => exact absurd hclash ((equate_eq_ok_iff.mp hequate).1 meeting hbetween)

end Ty

variable {pairs : List (Ty × Ty)}

theorem equateAll_eq_ok_iff {equations : List Equation} :
    equateAll pairs = .ok equations ↔
      (∀ types ∈ pairs, types.1.Compatible types.2) ∧
        equations = pairs.flatMap fun types => (types.1.meetings types.2).flatMap Meeting.equations := by
  induction pairs generalizing equations with
  | nil => simp [equateAll, eq_comm]
  | cons types rest ih =>
    simp only [equateAll, concat_eq_ok_iff, Ty.equate_eq_ok_iff, ih, List.forall_mem_cons,
      List.flatMap_cons]
    constructor
    · rintro ⟨_, _, ⟨hfirst, rfl⟩, ⟨hrest, rfl⟩, rfl⟩
      exact ⟨⟨hfirst, hrest⟩, rfl⟩
    · rintro ⟨⟨hfirst, hrest⟩, rfl⟩
      exact ⟨_, _, ⟨hfirst, rfl⟩, ⟨hrest, rfl⟩, rfl⟩

/-- The first pair that does not match decides the error. -/
theorem equateAll_eq_error_iff {mismatch : Mismatch} :
    equateAll pairs = .error mismatch ↔
      ∃ before types after, pairs = before ++ types :: after ∧
        (∀ earlier ∈ before, earlier.1.Compatible earlier.2) ∧ types.1.equate types.2 = .error mismatch := by
  induction pairs with
  | nil => simp [equateAll]
  | cons types rest ih =>
    rw [equateAll, concat_eq_error_iff, ih]
    constructor
    · rintro (herror | ⟨equations, hok, before, types', after, rfl, hbefore, herror⟩)
      · exact ⟨[], types, rest, rfl, by simp, herror⟩
      · have hcompatible := (Ty.equate_eq_ok_iff.mp hok).1
        exact ⟨types :: before, types', after, rfl, List.forall_mem_cons.mpr ⟨hcompatible, hbefore⟩, herror⟩
    · rintro ⟨_ | ⟨earlier, before⟩, types', after, hsplit, hbefore, herror⟩
      · obtain ⟨rfl, rfl⟩ := List.cons.inj hsplit
        exact .inl herror
      · obtain ⟨rfl, rfl⟩ := List.cons.inj hsplit
        obtain ⟨hcompatible, hbefore⟩ := List.forall_mem_cons.mp hbefore
        exact .inr ⟨_, Ty.equate_eq_ok_iff.mpr ⟨hcompatible, rfl⟩, before, types', after, rfl, hbefore, herror⟩

/-- **Equating is settling the meetings.** `Ty.meetings` lists the meetings of two types from left to right.
Equating fails if and only if one of them is a clash, with the parts of the first clash; otherwise it gives
what the meetings give one after the other. Of several pairs the first that fails decides. -/
theorem equate_settles_meetings :
    (∀ left right : Ty,
      (left.meetings right).Pairwise (·.position.LeftOf ·.position) ∧
      (∀ meeting : Meeting, meeting ∈ left.meetings right ↔ meeting.Between left right) ∧
      ((∃ mismatch, left.equate right = .error mismatch) ↔
        ∃ meeting : Meeting, meeting.Between left right ∧ meeting.Clash) ∧
      (∀ mismatch, left.equate right = .error mismatch ↔
        ∃ meeting : Meeting, meeting.FirstClash left right ∧ mismatch = ⟨meeting.left, meeting.right⟩) ∧
      ∀ equations, left.equate right = .ok equations ↔
        left.Compatible right ∧ equations = (left.meetings right).flatMap Meeting.equations) ∧
    ∀ pairs : List (Ty × Ty),
      (∀ mismatch, equateAll pairs = .error mismatch ↔
        ∃ before types after, pairs = before ++ types :: after ∧
          (∀ earlier ∈ before, earlier.1.Compatible earlier.2) ∧
          ∃ meeting : Meeting, meeting.FirstClash types.1 types.2 ∧
            mismatch = ⟨meeting.left, meeting.right⟩) ∧
      ∀ equations, equateAll pairs = .ok equations ↔
        (∀ types ∈ pairs, types.1.Compatible types.2) ∧
          equations = pairs.flatMap fun types => (types.1.meetings types.2).flatMap Meeting.equations := by
  refine ⟨fun left right => ⟨left.pairwise_meetings right, fun _ => Ty.mem_meetings,
    Ty.exists_equate_eq_error_iff, fun _ => Ty.equate_eq_error_iff, fun _ => Ty.equate_eq_ok_iff⟩,
    fun pairs => ⟨fun mismatch => ?_, fun _ => equateAll_eq_ok_iff⟩⟩
  simp only [equateAll_eq_error_iff, Ty.equate_eq_error_iff]

/-- There are clashes on both sides, and a variable stands before the first of them. In another pair the
variables come up twice. -/
theorem equate_settles_meetings_of_two_clashes :
    let left : Ty := .fn (.pair (.var 0) (.fn .int .bool)) .bool
    let right : Ty := .fn (.pair .bool (.pair .int .bool)) (.fn .int .int)
    let pair : Ty := .pair (.var 5) (.fn .int (.var 2))
    (∃ meeting : Meeting, meeting.FirstClash left right ∧ meeting.left = .fn .int .bool) ∧
      pair.Compatible (.pair (.var 2) (.fn (.var 5) (.var 2))) ∧
      equateAll [(pair, .pair (.var 2) (.fn (.var 5) (.var 2)))] = .ok [⟨2, .var 5⟩, ⟨5, .int⟩] := by
  intro left right pair
  obtain ⟨meeting, hfirst, hparts⟩ := ((equate_settles_meetings.1 left right).2.2.2.1
    ⟨.fn .int .bool, .pair .int .bool⟩).mp rfl
  have hcompatible : pair.Compatible (.pair (.var 2) (.fn (.var 5) (.var 2))) :=
    (((equate_settles_meetings.1 _ _).2.2.2.2 [⟨2, .var 5⟩, ⟨5, .int⟩]).mp rfl).1
  refine ⟨⟨meeting, hfirst, (congrArg Mismatch.left hparts).symm⟩, hcompatible, ?_⟩
  exact ((equate_settles_meetings.2 _).2 _).mpr ⟨by simpa using hcompatible, rfl⟩

end TypeEquations
