import Mathlib.Data.List.Chain
import TypeEquations.Proofs.RunMerging
import TypeEquations.RunSort

/-!
# Sorting by runs

Where the test decides the order of keys, each run found is in order, all runs that wait are, and in the end the
values stand in order. Which runs are merged when depends on their depths and lengths; the invariant does not, since
each merge replaces two neighbours by one run of the same values.
-/

namespace TypeEquations

namespace RunSort

variable {α ε κ : Type} [LinearOrder κ] {p : α → Prop} {key : α → κ} {less : α → α → Except ε Bool}
  {values run rest : List α} {value : α}

/-- A run goes on as long as each value relates to the one before it as the first two do. -/
def Goes (key : α → κ) (falling : Bool) (values : List α) : Prop :=
  values.IsChain fun a b => decide (key b < key a) = falling

theorem yields_runLength (hless : Decides p key less) (falling : Bool) {previous : α} (hprevious : p previous)
    (hvalues : ∀ a ∈ values, p a) :
    Yields (runLength less falling previous values) fun length =>
      Goes key falling (previous :: values.take length) := by
  induction values generalizing previous with
  | nil => exact .ok (List.isChain_singleton _)
  | cons next rest ih =>
    obtain ⟨hnext, hrest⟩ := List.forall_mem_cons.mp hvalues
    rw [runLength, hless next previous hnext hprevious]
    refine Yields.bind (.of_eq rfl) ?_
    rintro _ rfl
    split
    · rename_i hgoes
      refine (ih hnext hrest).bind ?_
      intro length hlength
      exact .ok (List.isChain_cons_cons.mpr ⟨hgoes, hlength⟩)
    · exact .ok (List.isChain_singleton _)

/-- Rising runs are in order, and falling ones the other way round. -/
theorem Goes.ordered {falling : Bool} (h : Goes key falling values) (hvalues : ∀ a ∈ values, p a) :
    Ordered p key (if falling then values.reverse else values) := by
  cases falling with
  | true =>
    have hchain : values.reverse.IsChain fun a b => key a ≤ key b :=
      List.isChain_reverse.mpr (h.imp fun a b hfalls => le_of_lt (of_decide_eq_true hfalls))
    exact ⟨fun a ha => hvalues a (List.mem_reverse.mp ha), List.isChain_iff_pairwise.mp hchain⟩
  | false =>
    have hchain : values.IsChain fun a b => key a ≤ key b :=
      h.imp fun a b hrises => not_lt.mp (of_decide_eq_false hrises)
    exact ⟨hvalues, List.isChain_iff_pairwise.mp hchain⟩

/-- What is split off is in order, whether it rose or fell. -/
theorem yields_splitRun (hless : Decides p key less) (hvalues : ∀ a ∈ values, p a) :
    Yields (splitRun less values) fun parts =>
      Ordered p key parts.1 ∧ (parts.1 ++ parts.2).Perm values ∧ (values ≠ [] → parts.1 ≠ []) := by
  unfold splitRun
  split
  · rename_i first second rest
    obtain ⟨hfirst, hsecond, hrest⟩ : p first ∧ p second ∧ ∀ a ∈ rest, p a := by
      simpa using hvalues
    rw [hless second first hsecond hfirst]
    refine Yields.bind (.of_eq rfl) ?_
    rintro _ rfl
    refine (yields_runLength hless _ hsecond hrest).bind ?_
    intro length hlength
    have hgoes : Goes key (decide (key second < key first)) (first :: second :: rest.take length) :=
      List.isChain_cons_cons.mpr ⟨rfl, hlength⟩
    have hall : ∀ a ∈ first :: second :: rest.take length, p a := by
      have hsublist := ((List.take_sublist length rest).cons_cons second).cons_cons first
      exact fun a ha => hvalues a (hsublist.subset ha)
    have hparts : first :: second :: rest.take length ++ rest.drop length = first :: second :: rest := by
      rw [List.cons_append, List.cons_append, List.take_append_drop]
    refine .ok ⟨hgoes.ordered hall, ?_, ?_⟩
    · rw [← hparts]
      apply List.Perm.append_right
      split
      · exact List.reverse_perm _
      · exact .refl _
    · split <;> simp
  · rename_i hshort
    have hordered : Ordered p key values := by
      match values with
      | [] => exact ordered_nil
      | [value] => exact ordered_cons.mpr ⟨hvalues value (by simp), by simp, ordered_nil⟩
      | first :: second :: rest => exact absurd rfl (hshort first second rest)
    refine .ok ⟨hordered, ?_, fun hne => hne⟩
    rw [List.append_nil]

theorem insertIdx_length_append (front back : List α) (value : α) :
    (front ++ back).insertIdx front.length value = front ++ value :: back := by
  induction front with
  | nil => rfl
  | cons first front ih => simp [ih]

/-- A value is inserted where it belongs. -/
theorem yields_insertSorted (hless : Decides p key less) (hordered : Ordered p key values) (hvalue : p value) :
    Yields (insertSorted less values value) fun longer =>
      Ordered p key longer ∧ longer.Perm (value :: values) := by
  obtain ⟨front, back, rfl, hpassing, hfront, hback⟩ := exists_not_above hless hordered hvalue
  have hbisect : bisect (fun other => (less value other).map (!·)) false (front ++ back) 0 (front ++ back).length =
      .ok front.length := by
    apply bisect_append hpassing <;> simp
  rw [insertSorted, hbisect]
  refine ⟨_, rfl, ?_⟩
  rw [insertIdx_length_append]
  obtain ⟨hfrontOrdered, hbackOrdered, hfrontBack⟩ := ordered_append.mp hordered
  refine ⟨?_, List.perm_middle⟩
  rw [ordered_append, ordered_cons]
  refine ⟨hfrontOrdered, ⟨hvalue, fun a ha => le_of_lt (hback a ha), hbackOrdered⟩, ?_⟩
  intro a ha b hb
  rcases List.mem_cons.mp hb with rfl | hb
  · exact hfront a ha
  · exact hfrontBack a ha b hb

theorem yields_insertAll (hless : Decides p key less) (hordered : Ordered p key values) (hrest : ∀ a ∈ rest, p a) :
    Yields (rest.foldlM (insertSorted less) values) fun longer =>
      Ordered p key longer ∧ longer.Perm (values ++ rest) := by
  induction rest generalizing values with
  | nil =>
    rw [List.append_nil]
    exact .ok ⟨hordered, .refl _⟩
  | cons next rest ih =>
    obtain ⟨hnext, hrest⟩ := List.forall_mem_cons.mp hrest
    rw [List.foldlM_cons]
    refine (yields_insertSorted hless hordered hnext).bind ?_
    rintro longer ⟨hlonger, hperm⟩
    refine (ih hlonger hrest).mono ?_
    rintro last ⟨hlast, hpermLast⟩
    refine ⟨hlast, hpermLast.trans ?_⟩
    exact (hperm.append_right rest).trans List.perm_middle.symm

/-- The run at the start, and what is left, which is less. -/
theorem yields_nextRun (hless : Decides p key less) (least : Nat) (hvalues : ∀ a ∈ values, p a) :
    Yields (nextRun less least values) fun parts =>
      Ordered p key parts.1 ∧ (parts.1 ++ parts.2).Perm values ∧
        (values ≠ [] → parts.2.length < values.length) := by
  rw [nextRun]
  refine (yields_splitRun hless hvalues).bind ?_
  rintro ⟨run, rest⟩ ⟨hrun, hperm, hne⟩
  have hrest : ∀ a ∈ rest, p a := fun a ha => hvalues a (hperm.mem_iff.mp (List.mem_append_right run ha))
  have htaken : ∀ a ∈ rest.take (least - run.length), p a := fun a ha => hrest a (List.mem_of_mem_take ha)
  refine (yields_insertAll hless hrun htaken).bind ?_
  rintro longer ⟨hlonger, hpermLonger⟩
  refine .ok ⟨hlonger, ?_, ?_⟩
  · refine (hpermLonger.append_right _).trans ?_
    rw [List.append_assoc, List.take_append_drop]
    exact hperm
  · intro hvaluesNe
    have hlength : run.length + rest.length = values.length := by
      rw [← List.length_append]
      exact hperm.length_eq
    have hpos : 0 < run.length := List.length_pos_of_ne_nil (hne hvaluesNe)
    simp only [List.length_drop]
    omega

/-! ### Runs that wait -/

variable {last : List α} {waiting : List (Waiting α)} {done : List α} {runs : Runs α}

def waitingValues (waiting : List (Waiting α)) : List α :=
  waiting.flatMap (·.run)

theorem perm_merged {merged before others : List α} (hmerged : merged.Perm (before ++ last)) :
    (merged ++ others).Perm (last ++ (before ++ others)) := by
  rw [← List.append_assoc]
  exact (hmerged.trans List.perm_append_comm).append_right others

structure Runs.Valid (p : α → Prop) (key : α → κ) (done : List α) (runs : Runs α) : Prop where
  last : Ordered p key runs.last
  waiting : ∀ before ∈ runs.waiting, Ordered p key before.run
  perm : (runs.last ++ waitingValues runs.waiting).Perm done

variable {before earlier : Waiting α} {merged : List α} {patience patience' : Nat}

/-- Merging the last two runs keeps all runs in order. -/
theorem Runs.Valid.mergeLast (h : Runs.Valid p key done ⟨last, before :: waiting, patience⟩)
    (hless : Decides p key less) (hmerge : merge less patience before.run last = .ok (merged, patience')) :
    Runs.Valid p key done ⟨merged, waiting, patience'⟩ := by
  obtain ⟨hlast, hwaiting, hperm⟩ := h
  obtain ⟨hbefore, hwaiting⟩ := List.forall_mem_cons.mp hwaiting
  obtain ⟨hmerged, hpermMerged⟩ := (yields_merge hless patience hbefore hlast).of_eq_ok hmerge
  exact ⟨hmerged, hwaiting, (perm_merged hpermMerged).trans hperm⟩

theorem Runs.Valid.mergeWaiting (h : Runs.Valid p key done ⟨last, before :: earlier :: waiting, patience⟩)
    (hless : Decides p key less) (hmerge : merge less patience earlier.run before.run = .ok (merged, patience'))
    (depth : Nat) : Runs.Valid p key done ⟨last, ⟨merged, depth⟩ :: waiting, patience'⟩ := by
  obtain ⟨hlast, hwaiting, hperm⟩ := h
  obtain ⟨hbefore, hwaiting⟩ := List.forall_mem_cons.mp hwaiting
  obtain ⟨hearlier, hwaiting⟩ := List.forall_mem_cons.mp hwaiting
  obtain ⟨hmerged, hpermMerged⟩ := (yields_merge hless patience hearlier hbefore).of_eq_ok hmerge
  refine ⟨hlast, List.forall_mem_cons.mpr ⟨hmerged, hwaiting⟩, .trans ?_ hperm⟩
  exact (perm_merged hpermMerged).append_left last

theorem Runs.Valid.exists_mergeLast (h : Runs.Valid p key done ⟨last, before :: waiting, patience⟩)
    (hless : Decides p key less) : ∃ next, merge less patience before.run last = .ok next := by
  obtain ⟨next, hmerge, -⟩ := yields_merge hless patience (h.waiting before List.mem_cons_self) h.last
  exact ⟨next, hmerge⟩

theorem yields_mergeDeeper (hless : Decides p key less) (depth patience : Nat)
    (h : Runs.Valid p key done ⟨last, waiting, patience⟩) :
    Yields (mergeDeeper less depth patience last waiting) (Runs.Valid p key done) := by
  induction waiting generalizing last patience with
  | nil => exact .ok h
  | cons before waiting ih =>
    rw [mergeDeeper]
    split
    · obtain ⟨⟨merged, patience'⟩, hmerge⟩ := h.exists_mergeLast hless
      rw [hmerge]
      exact ih patience' (h.mergeLast hless hmerge)
    · exact .ok h

/-- Of all runs that wait one is left, in order. -/
theorem yields_mergeAll (hless : Decides p key less) (patience : Nat)
    (h : Runs.Valid p key done ⟨last, waiting, patience⟩) :
    Yields (mergeAll less patience last waiting) fun sorted => Ordered p key sorted ∧ sorted.Perm done := by
  fun_induction mergeAll less patience last waiting with
  | case1 patience last =>
    refine .ok ⟨h.last, ?_⟩
    simpa [waitingValues] using h.perm
  | case2 patience last before =>
    obtain ⟨⟨merged, patience'⟩, hmerge⟩ := h.exists_mergeLast hless
    have hvalid := h.mergeLast hless hmerge
    rw [hmerge]
    refine .ok ⟨hvalid.last, ?_⟩
    simpa [waitingValues] using hvalid.perm
  | case3 patience last before earlier waiting hshorter error herror =>
    have hmerge := yields_merge hless patience (h.waiting earlier (by simp)) (h.waiting before (by simp))
    exact absurd herror hmerge.ne_error
  | case4 patience last before earlier waiting hshorter merged patience' hmerge ih =>
    exact ih (h.mergeWaiting hless hmerge earlier.depth)
  | case5 patience last before earlier waiting hshorter error herror =>
    obtain ⟨next, hmerge⟩ := h.exists_mergeLast hless
    rw [hmerge] at herror
    cases herror
  | case6 patience last before earlier waiting hshorter merged patience' hmerge ih =>
    exact ih (h.mergeLast hless hmerge)

/-- Each round takes a run off the values that are left. -/
theorem yields_addRuns (hless : Decides p key less) (count fuel : Nat) {all : List α}
    (h : Runs.Valid p key done runs) (hvalues : ∀ a ∈ values, p a) (hperm : (done ++ values).Perm all)
    (hfuel : values.length ≤ fuel) :
    Yields (addRuns less count fuel runs values) fun sorted => Ordered p key sorted ∧ sorted.Perm all := by
  induction fuel generalizing runs values done with
  | zero =>
    rw [List.length_eq_zero_iff.mp (Nat.le_zero.mp hfuel), List.append_nil] at hperm
    refine (yields_mergeAll hless runs.patience h).mono ?_
    rintro sorted ⟨hsorted, hpermSorted⟩
    exact ⟨hsorted, hpermSorted.trans hperm⟩
  | succ fuel ih =>
    cases values with
    | nil =>
      rw [List.append_nil] at hperm
      refine (yields_mergeAll hless runs.patience h).mono ?_
      rintro sorted ⟨hsorted, hpermSorted⟩
      exact ⟨hsorted, hpermSorted.trans hperm⟩
    | cons first others =>
      rw [addRuns]
      · refine (yields_nextRun hless (leastRun count) hvalues).bind ?_
        rintro ⟨run, rest⟩ ⟨hrun, hpermRun, hshorter⟩
        refine (yields_mergeDeeper hless _ runs.patience h).bind ?_
        intro merged hmerged
        have hrest : ∀ a ∈ rest, p a := fun a ha => hvalues a (hpermRun.mem_iff.mp (List.mem_append_right run ha))
        have hpermNext : (run ++ (merged.last ++ waitingValues merged.waiting)).Perm (done ++ run) :=
          List.perm_append_comm.trans (hmerged.perm.append_right run)
        refine ih ⟨hrun, List.forall_mem_cons.mpr ⟨hmerged.last, hmerged.waiting⟩, hpermNext⟩ hrest ?_ ?_
        · rw [List.append_assoc]
          exact (hpermRun.append_left done).trans hperm
        · have hless := hshorter (List.cons_ne_nil first others)
          simp only at hless
          omega
      · exact List.cons_ne_nil first others

end RunSort

/-- Where the test decides the order of keys, sorting gives the values in order. -/
theorem yields_runSort {α ε κ : Type} [LinearOrder κ] {p : α → Prop} {key : α → κ} {less : α → α → Except ε Bool}
    {values : List α} (hless : RunSort.Decides p key less) (hvalues : ∀ a ∈ values, p a) :
    Yields (runSort less values) fun sorted => RunSort.Ordered p key sorted ∧ sorted.Perm values := by
  rw [runSort]
  refine (RunSort.yields_nextRun hless _ hvalues).bind ?_
  rintro ⟨run, rest⟩ ⟨hrun, hperm, -⟩
  have hrest : ∀ a ∈ rest, p a := fun a ha => hvalues a (hperm.mem_iff.mp (List.mem_append_right run ha))
  have hvalid : RunSort.Runs.Valid p key run ⟨run, [], RunSort.Merging.worthwhile⟩ :=
    ⟨hrun, List.forall_mem_nil _, by simp [RunSort.waitingValues]⟩
  exact RunSort.yields_addRuns hless _ _ hvalid hrest hperm (Nat.le_refl _)

end TypeEquations
