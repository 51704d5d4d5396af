import TypeEquations.Proofs.Galloping
import TypeEquations.RunSort.Merge

/-!
# Merged runs

Whatever the turns and strides of a merge, the values merged so far come before all that are left. That is kept as
two orders, those of the merged values with the rest of either run behind them, so that a step has to compare what it
takes with the other run alone.

A merge ends with one value set aside that is never looked at again. It belongs behind the other run because that run
was cut at the greatest value set aside before the merge began; this is the last field of the invariant.
-/

namespace TypeEquations.RunSort

variable {α ε κ : Type} [LinearOrder κ] {p : α → Prop} {key : α → κ}

namespace Merging

def size (merging : Merging α) : Nat :=
  merging.aside.length + merging.other.length

/-- A state of the merge that leads to the values in order. -/
structure Valid (p : α → Prop) (key : α → κ) (values : List α) (merging : Merging α) : Prop where
  perm : merging.result.Perm values
  aside : Ordered p key (merging.merged.reverse ++ merging.aside)
  other : Ordered p key (merging.merged.reverse ++ merging.other)
  last : ∀ greatest ∈ merging.aside.getLast?, ∀ b ∈ merging.other, key b ≤ key greatest

variable {values : List α} {merging : Merging α} {count : Nat}

/-- Values set aside may be taken while no other one is less. -/
theorem Valid.takeAside (h : Valid p key values merging)
    (hle : ∀ a ∈ merging.aside.take count, ∀ b ∈ merging.other, key a ≤ key b) :
    Valid p key values (merging.takeAside count) := by
  obtain ⟨merged, aside, other⟩ := merging
  obtain ⟨front, back, rfl, hfront, hback⟩ :
      ∃ front back, aside = front ++ back ∧ aside.take count = front ∧ aside.drop count = back :=
    ⟨_, _, (List.take_append_drop ..).symm, rfl, rfl⟩
  obtain ⟨hperm, haside, hother, hlast⟩ := h
  simp only [hfront] at hle
  simp only [Merging.takeAside, hfront, hback]
  obtain ⟨hmerged, hothers, hmergedOther⟩ := ordered_append.mp hother
  obtain ⟨-, hparts, hmergedAside⟩ := ordered_append.mp haside
  obtain ⟨hfrontOrdered, -, hfrontBack⟩ := ordered_append.mp hparts
  constructor
  · refine .trans ?_ hperm
    simp only [result, List.reverse_append, List.reverse_reverse, List.append_assoc]
    apply List.Perm.append_left
    rw [← List.append_assoc, ← List.append_assoc]
    exact List.perm_append_comm.append_right back
  · simpa using haside
  · simp only [List.reverse_append, List.reverse_reverse, List.append_assoc]
    rw [ordered_append, ordered_append]
    refine ⟨hmerged, ⟨hfrontOrdered, hothers, hle⟩, ?_⟩
    intro a ha b hb
    rcases List.mem_append.mp hb with hb | hb
    · exact hmergedAside a ha b (List.mem_append_left back hb)
    · exact hmergedOther a ha b hb
  · intro greatest hgreatest
    apply hlast
    simp only [List.getLast?_append, Option.mem_def] at hgreatest ⊢
    simp [hgreatest]

theorem Valid.takeOther (h : Valid p key values merging)
    (hle : ∀ b ∈ merging.other.take count, ∀ a ∈ merging.aside, key b ≤ key a) :
    Valid p key values (merging.takeOther count) := by
  obtain ⟨merged, aside, other⟩ := merging
  obtain ⟨front, back, rfl, hfront, hback⟩ :
      ∃ front back, other = front ++ back ∧ other.take count = front ∧ other.drop count = back :=
    ⟨_, _, (List.take_append_drop ..).symm, rfl, rfl⟩
  obtain ⟨hperm, haside, hother, hlast⟩ := h
  simp only [hfront] at hle
  simp only [Merging.takeOther, hfront, hback]
  obtain ⟨hmerged, hasides, hmergedAside⟩ := ordered_append.mp haside
  obtain ⟨-, hparts, hmergedOther⟩ := ordered_append.mp hother
  obtain ⟨hfrontOrdered, -, hfrontBack⟩ := ordered_append.mp hparts
  constructor
  · simpa [result] using hperm
  · simp only [List.reverse_append, List.reverse_reverse, List.append_assoc]
    rw [ordered_append, ordered_append]
    refine ⟨hmerged, ⟨hfrontOrdered, hasides, hle⟩, ?_⟩
    intro a ha b hb
    rcases List.mem_append.mp hb with hb | hb
    · exact hmergedOther a ha b (List.mem_append_left back hb)
    · exact hmergedAside a ha b hb
  · simpa using hother
  · intro greatest hgreatest b hb
    exact hlast greatest hgreatest b (List.mem_append_right front hb)

theorem size_takeAside_le (count : Nat) (merging : Merging α) : (merging.takeAside count).size ≤ merging.size := by
  simp only [size, takeAside, List.length_drop]
  omega

theorem size_takeOther_le (count : Nat) (merging : Merging α) : (merging.takeOther count).size ≤ merging.size := by
  simp only [size, takeOther, List.length_drop]
  omega

/-- At the end of a merge the rest is in order. -/
theorem Valid.ordered_result (h : Valid p key values merging) (hsettled : merging.isSettled = true) :
    Ordered p key merging.result := by
  obtain ⟨merged, aside, other⟩ := merging
  obtain ⟨hperm, haside, hother, hlast⟩ := h
  simp only [isSettled, Bool.or_eq_true, List.isEmpty_iff, decide_eq_true_eq] at hsettled
  simp only [result]
  rcases hsettled with rfl | hsettled
  · simpa using haside
  · match aside with
    | [] => simpa using hother
    | [greatest] =>
      obtain ⟨-, hgreatest, hmergedAside⟩ := ordered_append.mp haside
      refine ordered_append.mpr ⟨hother, hgreatest, ?_⟩
      intro a ha b hb
      rcases List.mem_append.mp ha with ha | ha
      · exact hmergedAside a ha b hb
      · rw [List.mem_singleton.mp hb]
        exact hlast greatest rfl a ha

variable {ahead : α → α → Except ε Bool} {a b : α} {as bs : List α}

theorem Valid.ordered_aside (h : Valid p key values merging) : Ordered p key merging.aside :=
  (ordered_append.mp h.aside).2.1

theorem Valid.ordered_other (h : Valid p key values merging) : Ordered p key merging.other :=
  (ordered_append.mp h.other).2.1

theorem exists_cons_of_not_settled (hsettled : ¬ merging.isSettled = true) :
    (∃ a as, merging.aside = a :: as) ∧ ∃ b bs, merging.other = b :: bs := by
  simp only [isSettled, Bool.or_eq_true, List.isEmpty_iff, decide_eq_true_eq, not_or] at hsettled
  exact ⟨List.exists_cons_of_length_pos (by omega), List.exists_cons_of_ne_nil hsettled.1⟩

/-- The test of the first values of both runs. -/
theorem Valid.ahead_eq (h : Valid p key values merging) (hahead : Decides p key ahead)
    (ha : a ∈ merging.aside) (hb : b ∈ merging.other) : ahead b a = .ok (decide (key b < key a)) :=
  hahead b a (h.ordered_other.all b hb) (h.ordered_aside.all a ha)

theorem Valid.takeAside_one (h : Valid p key values merging) (haside : merging.aside = a :: as)
    (hle : ∀ b ∈ merging.other, key a ≤ key b) :
    Valid p key values (merging.takeAside 1) ∧ (merging.takeAside 1).size < merging.size := by
  constructor
  · apply h.takeAside
    simpa [haside] using hle
  · simp only [size, Merging.takeAside, haside, List.length_drop, List.length_cons]
    omega

theorem Valid.takeOther_one (h : Valid p key values merging) (hother : merging.other = b :: bs)
    (hle : ∀ a ∈ merging.aside, key b ≤ key a) :
    Valid p key values (merging.takeOther 1) ∧ (merging.takeOther 1).size < merging.size := by
  constructor
  · apply h.takeOther
    simpa [hother] using hle
  · simp only [size, Merging.takeOther, hother, List.length_drop, List.length_cons]
    omega

/-- Taking turns keeps the state valid, and takes a value at least where both runs have one. -/
theorem yields_alternate (hahead : Decides p key ahead) (patience fuel asideWins otherWins : Nat)
    (h : Valid p key values merging) :
    Yields (alternate ahead patience fuel asideWins otherWins merging) fun next =>
      Valid p key values next ∧ next.size ≤ merging.size ∧
        (0 < fuel → ¬ merging.isSettled = true → next.size < merging.size) := by
  induction fuel generalizing merging asideWins otherWins with
  | zero => exact .ok ⟨h, Nat.le_refl _, fun hfuel => absurd hfuel (Nat.lt_irrefl 0)⟩
  | succ fuel ih =>
    have hgo {next : Merging α} (asideWins otherWins : Nat)
        (hnext : Valid p key values next ∧ next.size < merging.size) (stop : Bool) :
        Yields (if stop then .ok next else alternate ahead patience fuel asideWins otherWins next) fun last =>
          Valid p key values last ∧ last.size ≤ merging.size ∧
            (0 < fuel + 1 → ¬ merging.isSettled = true → last.size < merging.size) := by
      cases stop with
      | true => exact .ok ⟨hnext.1, Nat.le_of_lt hnext.2, fun _ _ => hnext.2⟩
      | false =>
        refine (ih asideWins otherWins hnext.1).mono ?_
        rintro last ⟨hvalid, hsize, -⟩
        exact ⟨hvalid, by omega, by omega⟩
    unfold alternate
    split
    · rename_i a as b bs haside hother
      rw [h.ahead_eq hahead (by simp [haside]) (by simp [hother])]
      have hasides := haside ▸ h.ordered_aside
      have hothers := hother ▸ h.ordered_other
      by_cases hless : key b < key a
      · rw [decide_eq_true hless]
        apply hgo
        apply h.takeOther_one hother
        intro x hx
        exact (le_of_lt hless).trans (le_of_mem_cons hasides x (haside ▸ hx))
      · rw [decide_eq_false hless]
        apply hgo
        apply h.takeAside_one haside
        intro x hx
        exact (not_lt.mp hless).trans (le_of_mem_cons hothers x (hother ▸ hx))
    · rename_i hempty
      refine .ok ⟨h, Nat.le_refl _, fun _ hsettled => ?_⟩
      obtain ⟨⟨a, as, haside⟩, b, bs, hother⟩ := exists_cons_of_not_settled hsettled
      exact absurd hother (hempty a as b bs haside)

/-- After a stride one value of the other run follows, unless the rest is settled. -/
theorem Valid.takeAside_takeOther (h : Valid p key values merging) (hother : merging.other = b :: bs)
    (hfront : ∀ a ∈ merging.aside.take count, key a ≤ key b)
    (hback : ∀ a ∈ merging.aside.drop count, key b ≤ key a) {next : Merging α}
    (hnext : next = merging.takeAside count) :
    Valid p key values (if next.isSettled then next else next.takeOther 1) ∧
      (if next.isSettled then next else next.takeOther 1).size ≤ merging.size := by
  subst hnext
  have hothers := hother ▸ h.ordered_other
  have hvalid : Valid p key values (merging.takeAside count) := by
    apply h.takeAside
    intro a ha x hx
    exact (hfront a ha).trans (le_of_mem_cons hothers x (hother ▸ hx))
  have hsize := size_takeAside_le count merging
  split
  · exact ⟨hvalid, hsize⟩
  · obtain ⟨hlast, hless⟩ := hvalid.takeOther_one hother hback
    exact ⟨hlast, Nat.le_trans (Nat.le_of_lt hless) hsize⟩

theorem Valid.takeOther_takeAside (h : Valid p key values merging) (haside : merging.aside = a :: as)
    (hfront : ∀ b ∈ merging.other.take count, key b ≤ key a)
    (hback : ∀ b ∈ merging.other.drop count, key a ≤ key b) {next : Merging α}
    (hnext : next = merging.takeOther count) :
    Valid p key values (if next.isSettled then next else next.takeAside 1) ∧
      (if next.isSettled then next else next.takeAside 1).size ≤ merging.size := by
  subst hnext
  have hasides := haside ▸ h.ordered_aside
  have hvalid : Valid p key values (merging.takeOther count) := by
    apply h.takeOther
    intro b hb x hx
    exact (hfront b hb).trans (le_of_mem_cons hasides x (haside ▸ hx))
  have hsize := size_takeOther_le count merging
  split
  · exact ⟨hvalid, hsize⟩
  · obtain ⟨hlast, hless⟩ := hvalid.takeAside_one haside hback
    exact ⟨hlast, Nat.le_trans (Nat.le_of_lt hless) hsize⟩

theorem yields_strideAside (hahead : Decides p key ahead) (backward : Bool) (h : Valid p key values merging) :
    Yields (strideAside ahead backward merging) fun next =>
      Valid p key values next.1 ∧ next.1.size ≤ merging.size := by
  unfold strideAside
  split
  · rename_i b bs hsettled hother
    obtain ⟨front, back, haside, hpassing, hfront, hback⟩ :=
      exists_not_above hahead h.ordered_aside (h.ordered_other.all b (by simp [hother]))
    rw [gallop_eq haside hpassing backward]
    refine ⟨_, rfl, h.takeAside_takeOther hother ?_ ?_ rfl⟩
    · rwa [haside, List.take_left]
    · rw [haside, List.drop_left]
      exact fun a ha => le_of_lt (hback a ha)
  · exact .ok ⟨h, Nat.le_refl _⟩

theorem yields_strideOther (hahead : Decides p key ahead) (backward : Bool) (h : Valid p key values merging) :
    Yields (strideOther ahead backward merging) fun next =>
      Valid p key values next.1 ∧ next.1.size ≤ merging.size := by
  unfold strideOther
  split
  · rename_i a as hsettled haside
    obtain ⟨front, back, hother, hpassing, hfront, hback⟩ :=
      exists_below hahead h.ordered_other (h.ordered_aside.all a (by simp [haside]))
    rw [gallop_eq hother hpassing backward]
    refine ⟨_, rfl, h.takeOther_takeAside haside ?_ ?_ rfl⟩
    · rw [hother, List.take_left]
      exact fun b hb => le_of_lt (hfront b hb)
    · rwa [hother, List.drop_left]
  · exact .ok ⟨h, Nat.le_refl _⟩

/-- A stride through both runs keeps what holds of the merge, from whichever end it goes. -/
theorem yields_strideBoth (hahead : Decides p key ahead) (backward : Bool) (h : Valid p key values merging) :
    Yields (strideBoth ahead backward merging) fun next =>
      Valid p key values next.1 ∧ next.1.size ≤ merging.size := by
  unfold strideBoth
  cases backward with
  | true =>
    refine (yields_strideOther hahead true h).bind ?_
    rintro ⟨first, others⟩ ⟨hfirst, hsizeFirst⟩
    refine (yields_strideAside hahead true hfirst).bind ?_
    rintro ⟨second, asides⟩ ⟨hsecond, hsizeSecond⟩
    exact .ok ⟨hsecond, Nat.le_trans hsizeSecond hsizeFirst⟩
  | false =>
    refine (yields_strideAside hahead false h).bind ?_
    rintro ⟨first, asides⟩ ⟨hfirst, hsizeFirst⟩
    refine (yields_strideOther hahead false hfirst).bind ?_
    rintro ⟨second, others⟩ ⟨hsecond, hsizeSecond⟩
    exact .ok ⟨hsecond, Nat.le_trans hsizeSecond hsizeFirst⟩

theorem yields_strideOn (hahead : Decides p key ahead) (backward : Bool) (fuel patience : Nat)
    (h : Valid p key values merging) :
    Yields (strideOn ahead backward fuel patience merging) fun next =>
      Valid p key values next.1 ∧ next.1.size ≤ merging.size := by
  induction fuel generalizing merging patience with
  | zero => exact .ok ⟨h, Nat.le_refl _⟩
  | succ fuel ih =>
    unfold strideOn
    refine (yields_strideBoth hahead backward h).bind ?_
    rintro ⟨next, count⟩ ⟨hnext, hsize⟩
    simp only
    split
    · exact .ok ⟨hnext, hsize⟩
    · split
      · refine (ih _ hnext).mono ?_
        rintro last ⟨hlast, hsizeLast⟩
        exact ⟨hlast, Nat.le_trans hsizeLast hsize⟩
      · exact .ok ⟨hnext, hsize⟩

/-- Each round of turns takes a value at least, so the rounds are enough to settle the rest. -/
theorem yields_finish (hahead : Decides p key ahead) (backward : Bool) (fuel patience : Nat)
    (h : Valid p key values merging) (hfuel : merging.size ≤ fuel) :
    Yields (finish ahead backward fuel patience merging) fun merged =>
      Ordered p key merged.1 ∧ merged.1.Perm values := by
  induction fuel generalizing merging patience with
  | zero =>
    have hsettled : merging.isSettled = true := by
      simp only [size] at hfuel
      simp only [isSettled, Bool.or_eq_true, decide_eq_true_eq]
      omega
    exact .ok ⟨h.ordered_result hsettled, h.perm⟩
  | succ fuel ih =>
    unfold finish
    simp only
    split
    · rename_i hsettled
      exact .ok ⟨h.ordered_result hsettled, h.perm⟩
    · rename_i hsettled
      obtain ⟨⟨a, as, haside⟩, -⟩ := exists_cons_of_not_settled hsettled
      have hpos : 0 < merging.aside.length + merging.other.length := by
        simp only [haside, List.length_cons]
        omega
      refine (yields_alternate hahead patience _ 0 0 h).bind ?_
      rintro next ⟨hnext, -, hless⟩
      have hsize := hless hpos hsettled
      split
      · rename_i hdone
        exact .ok ⟨hnext.ordered_result hdone, hnext.perm⟩
      · refine (yields_strideOn hahead backward _ patience hnext).bind ?_
        rintro ⟨last, patience⟩ ⟨hlast, hsizeLast⟩
        exact ih patience hlast (by omega)

/-- Two ordered runs become one, of the same values. -/
theorem yields_run (hahead : Decides p key ahead) (backward : Bool) (patience : Nat) {aside other : List α}
    (haside : Ordered p key aside) (hother : Ordered p key other)
    (hfirst : ∀ b ∈ other.head?, ∀ a ∈ aside, key b ≤ key a)
    (hlast : ∀ greatest ∈ aside.getLast?, ∀ b ∈ other, key b ≤ key greatest) :
    Yields (run ahead backward patience aside other) fun merged =>
      Ordered p key merged.1 ∧ merged.1.Perm (aside ++ other) := by
  have hstart : Valid p key (aside ++ other) ⟨[], aside, other⟩ :=
    ⟨List.perm_append_comm, haside, hother, hlast⟩
  have hvalid : Valid p key (aside ++ other) (Merging.takeOther 1 ⟨[], aside, other⟩) := by
    apply hstart.takeOther
    intro b hb
    cases other with
    | nil => simp at hb
    | cons first rest =>
      rw [List.take_one, List.head?_cons, Option.toList_some, List.mem_singleton] at hb
      exact hfirst b (by simp [hb])
  exact yields_finish hahead backward _ patience hvalid (size_takeOther_le 1 _)

end Merging

variable {less : α → α → Except ε Bool} {left right first second : List α} {greatest : α}

/-- Backward, the same test decides the opposite order. -/
theorem Decides.flip (hless : Decides p key less) : Decides p (OrderDual.toDual ∘ key) fun a b => less b a :=
  fun a b ha hb => hless b a hb ha

/-- The shorter run is set aside; backward it is the second one, and the order turns round. -/
theorem yields_middle (hless : Decides p key less) (patience : Nat) (hleft : Ordered p key left)
    (hright : Ordered p key right) (hgreatest : left.getLast? = some greatest)
    (hfirst : ∀ b ∈ right.head?, ∀ a ∈ left, key b ≤ key a) (hbelow : ∀ b ∈ right, key b < key greatest)
    {β : Type} {rest : List α × Nat → Except ε β} {property : β → Prop}
    (hrest : ∀ merged, Ordered p key merged.1 ∧ merged.1.Perm (left ++ right) → Yields (rest merged) property) :
    Yields (if right.isEmpty then pure (left, patience) >>= rest
      else if left.length ≤ right.length then Merging.run less false patience left right >>= rest
      else do
        let (merged, patience) ← Merging.run (fun a b => less b a) true patience right.reverse left.reverse
        pure (merged.reverse, patience) >>= rest) property := by
  split
  · rename_i hempty
    apply hrest (left, patience)
    rw [List.isEmpty_iff.mp hempty, List.append_nil]
    exact ⟨hleft, .refl _⟩
  · split
    · refine (Merging.yields_run hless false patience hleft hright hfirst ?_).bind hrest
      intro last hlast b hb
      rw [Option.mem_def, hgreatest, Option.some.injEq] at hlast
      exact le_of_lt (hlast ▸ hbelow b hb)
    · have hrun : Yields (Merging.run (fun a b => less b a) true patience right.reverse left.reverse) fun merged =>
          Ordered p (OrderDual.toDual ∘ key) merged.1 ∧ merged.1.Perm (right.reverse ++ left.reverse) := by
        apply Merging.yields_run hless.flip true patience (ordered_reverse.mpr hright) (ordered_reverse.mpr hleft)
        · intro last hlast a ha
          rw [Option.mem_def, List.head?_reverse, hgreatest, Option.some.injEq] at hlast
          exact le_of_lt (hlast ▸ hbelow a (List.mem_reverse.mp ha))
        · intro least hleast b hb
          rw [List.getLast?_reverse] at hleast
          exact hfirst least hleast b (List.mem_reverse.mp hb)
      refine hrun.bind ?_
      rintro ⟨merged, patience⟩ ⟨hmerged, hperm⟩
      apply hrest (merged.reverse, patience)
      refine ⟨?_, ?_⟩
      · rw [← ordered_reverse, List.reverse_reverse]
        exact hmerged
      · refine (merged.reverse_perm.trans hperm).trans ?_
        rw [← List.reverse_append]
        exact List.reverse_perm _

theorem le_of_getLast? (hordered : Ordered p key xs) (hgreatest : xs.getLast? = some greatest) :
    ∀ a ∈ xs, key a ≤ key greatest := by
  obtain ⟨front, rfl⟩ := List.getLast?_eq_some_iff.mp hgreatest
  obtain ⟨-, -, hle⟩ := ordered_append.mp hordered
  intro a ha
  rcases List.mem_append.mp ha with ha | ha
  · exact hle a ha greatest (List.mem_singleton.mpr rfl)
  · rw [List.mem_singleton.mp ha]

/-- What is left out of a merge at both ends stays in place. -/
theorem ordered_between {low tail body merged : List α} (hfirst : Ordered p key (low ++ left))
    (hsecond : Ordered p key (body ++ tail)) (hmerged : Ordered p key merged) (hperm : merged.Perm (left ++ body))
    (hlow : ∀ a ∈ low, ∀ b ∈ body ++ tail, key a ≤ key b) (htail : ∀ a ∈ left, ∀ b ∈ tail, key a ≤ key b) :
    Ordered p key (low ++ merged ++ tail) := by
  obtain ⟨hlowOrdered, -, hlowLeft⟩ := ordered_append.mp hfirst
  obtain ⟨-, htailOrdered, hbodyTail⟩ := ordered_append.mp hsecond
  have hmem {a : α} : a ∈ merged ↔ a ∈ left ∨ a ∈ body := hperm.mem_iff.trans List.mem_append
  rw [List.append_assoc, ordered_append, ordered_append]
  refine ⟨hlowOrdered, ⟨hmerged, htailOrdered, ?_⟩, ?_⟩
  · intro a ha b hb
    rcases hmem.mp ha with ha | ha
    · exact htail a ha b hb
    · exact hbodyTail a ha b hb
  · intro a ha b hb
    rcases List.mem_append.mp hb with hb | hb
    · rcases hmem.mp hb with hb | hb
      · exact hlowLeft a ha b hb
      · exact hlow a ha b (List.mem_append_left _ hb)
    · exact hlow a ha b (List.mem_append_right _ hb)

theorem perm_between {low tail body merged : List α} (hperm : merged.Perm (left ++ body)) :
    (low ++ merged ++ tail).Perm (low ++ left ++ (body ++ tail)) := by
  simp only [List.append_assoc]
  apply List.Perm.append_left
  rw [← List.append_assoc]
  exact hperm.append_right _

/-- The values of the first run that stand before the second one, and those of the second behind the first, are in
place; the rest is merged. -/
theorem yields_merge (hless : Decides p key less) (patience : Nat) (hfirst : Ordered p key first)
    (hsecond : Ordered p key second) :
    Yields (merge less patience first second) fun merged =>
      Ordered p key merged.1 ∧ merged.1.Perm (first ++ second) := by
  unfold merge
  split
  · rw [List.append_nil]
    exact .ok ⟨hfirst, .refl _⟩
  · rename_i least rest
    obtain ⟨low, left, rfl, hpassing, hlow, hleft⟩ := exists_not_above hless hfirst (ordered_cons.mp hsecond).1
    obtain ⟨hlowOrdered, hleftOrdered, -⟩ := ordered_append.mp hfirst
    rw [gallop_eq rfl hpassing false]
    refine Yields.bind (.of_eq rfl) ?_
    rintro _ rfl
    rw [List.drop_left, List.take_left]
    have hleast := le_of_mem_cons hsecond
    have hlowSecond : ∀ a ∈ low, ∀ b ∈ least :: rest, key a ≤ key b := by
      intro a ha b hb
      exact (hlow a ha).trans (hleast b hb)
    simp only
    split
    · rename_i hnone
      rw [List.getLast?_eq_none_iff.mp hnone, List.append_nil]
      exact .ok ⟨ordered_append.mpr ⟨hlowOrdered, hsecond, hlowSecond⟩, .refl _⟩
    · rename_i greatest hgreatest
      -- Backward the second run starts at its end, so what lies behind the first run is a front of its reverse.
      have hgreatestLeft : greatest ∈ left := List.mem_of_getLast? hgreatest
      obtain ⟨tail, body, hreversed, hpassing, htail, hbody⟩ :=
        exists_not_above hless.flip (ordered_reverse.mpr hsecond) (hleftOrdered.all greatest hgreatestLeft)
      rw [gallop_eq hreversed hpassing true]
      refine Yields.bind (.of_eq rfl) ?_
      rintro _ rfl
      have hsplit : least :: rest = body.reverse ++ tail.reverse := by
        rw [← List.reverse_append, ← hreversed, List.reverse_reverse]
      rw [hsplit] at hsecond hlowSecond ⊢
      have htake : (body.reverse ++ tail.reverse).take ((body.reverse ++ tail.reverse).length - tail.length) =
          body.reverse := by
        rw [List.length_append, List.length_reverse, List.length_reverse, Nat.add_sub_cancel, ← List.length_reverse,
          List.take_left]
      rw [htake, List.drop_left]
      obtain ⟨hbodyOrdered, -, -⟩ := ordered_append.mp hsecond
      refine yields_middle hless patience hleftOrdered hbodyOrdered hgreatest ?_ ?_ ?_
      · intro b hb a ha
        have hhead : some least = some b := by
          rw [← List.head?_cons (a := least) (l := rest), hsplit, List.head?_append, Option.mem_def.mp hb,
            Option.some_or]
        cases hhead
        exact le_of_lt (hleft a ha)
      · exact fun b hb => hbody b (List.mem_reverse.mp hb)
      · rintro ⟨merged, patience⟩ ⟨hmerged, hperm⟩
        have htailLeft : ∀ a ∈ left, ∀ b ∈ tail.reverse, key a ≤ key b := by
          intro a ha b hb
          exact (le_of_getLast? hleftOrdered hgreatest a ha).trans (htail b (List.mem_reverse.mp hb))
        exact .ok ⟨ordered_between hfirst hsecond hmerged hperm hlowSecond htailLeft, perm_between hperm⟩

end TypeEquations.RunSort
