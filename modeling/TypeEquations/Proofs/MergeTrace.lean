import Mathlib.Data.List.Basic
import TypeEquations.Elimination
import TypeEquations.Proofs.Relabeling

/-!
# Traces of a merging

Merging eliminates for good. The greater variable of the equation that calls for a renaming is left in that
equation alone, and no later renaming reaches it, as all of them are called for by other equations. So a
second merging finds nothing left to change.
-/

namespace TypeEquations

def Equations.Mentions (equations : Equations) (x : Int) : Prop :=
  ∃ equation ∈ equations, x ∈ equation.occurrences

namespace Registry

variable {registry registry' : Registry} {equation equation' : Equation} {ids rest : List EquationId}
  {source target x y : Int}

/-! ### Equations that call for a renaming -/

theorem lt_of_mergedVariables? (hmerged : mergedVariables? equation = some (source, target)) :
    target < source := by
  obtain ⟨x, y, _, hne, rfl, rfl⟩ := mergedVariables?_eq_some_iff_link?.mp hmerged
  omega

theorem mem_occurrences_of_mergedVariables? (hmerged : mergedVariables? equation = some (source, target)) :
    source ∈ equation.occurrences ∧ target ∈ equation.occurrences := by
  obtain ⟨x, y, hlink, _, rfl, rfl⟩ := mergedVariables?_eq_some_iff_link?.mp hmerged
  obtain ⟨hx, hy⟩ := Equation.mem_occurrences_of_link? hlink
  rcases Int.le_total x y with hle | hle
  · rw [Int.max_eq_right hle, Int.min_eq_left hle]
    exact ⟨hy, hx⟩
  · rw [Int.max_eq_left hle, Int.min_eq_right hle]
    exact ⟨hx, hy⟩

theorem mergedVariables?_eq_none_iff :
    mergedVariables? equation = none ↔ ∀ x y, equation.link? = some (x, y) → x = y := by
  rw [Option.eq_none_iff_forall_ne_some]
  constructor
  · intro hnone x y hlink
    by_contra hne
    exact hnone (max x y, min x y) (mergedVariables?_eq_some_iff_link?.mpr ⟨x, y, hlink, hne, rfl, rfl⟩)
  · rintro hsame ⟨source, target⟩ hmerged
    obtain ⟨x, y, hlink, hne, _⟩ := mergedVariables?_eq_some_iff_link?.mp hmerged
    exact hne (hsame x y hlink)

theorem mergedVariables?_of_rename_eq_none (hnone : mergedVariables? equation = none)
    (hrename : equation.rename source target = (equation', .ok ())) : mergedVariables? equation' = none := by
  rw [mergedVariables?_eq_none_iff] at hnone ⊢
  intro x y hlink
  rw [Equation.link?_of_rename hrename, Option.map_eq_some_iff] at hlink
  obtain ⟨⟨a, b⟩, hlink, hends⟩ := hlink
  obtain rfl := hnone a b hlink
  rw [Prod.map_apply, Prod.mk.injEq] at hends
  exact hends.1.symm.trans hends.2

/-- A renaming to a smaller variable that does not mention the greater one of an equation leaves it the
greater one. -/
theorem mergedVariables?_of_rename (hmerged : mergedVariables? equation = some (x, y))
    (hlt : target < source) (hsource : source ≠ x) (htarget : target ≠ x)
    (hrename : equation.rename source target = (equation', .ok ())) :
    mergedVariables? equation' = some (x, Function.update id source target y) := by
  obtain ⟨a, b, hlink, hne, rfl, rfl⟩ := mergedVariables?_eq_some_iff_link?.mp hmerged
  refine mergedVariables?_eq_some_iff_link?.mpr
    ⟨Function.update id source target a, Function.update id source target b, ?_, ?_⟩
  · rw [Equation.link?_of_rename hrename, hlink]
    rfl
  · simp only [Function.update_apply, id]
    omega

/-! ### The run -/

structure Renaming where
  cause : EquationId
  source : Int
  target : Int

def Renaming.pair (r : Renaming) : Int × Int :=
  (r.source, r.target)

/-- As the cause now stands it calls for the renaming, and all others are renamed. -/
structure Renames (ids : List EquationId) (registry : Registry) (r : Renaming) (registry' : Registry) :
    Prop where
  called : (registry.get? r.cause).bind mergedVariables? = some (r.source, r.target)
  renamed : registry.renameAll r.source r.target (ids.filter (· ≠ r.cause)) = (registry', .ok ())

/-- What a merging does to the equations still to come, one after the other. -/
inductive Merges (ids : List EquationId) : Registry → List EquationId → List Renaming → Registry → Prop
  | done (registry : Registry) : Merges ids registry [] [] registry
  | skip {registry registry' : Registry} {id : EquationId} {rest : List EquationId} {trace : List Renaming}
      (hnone : (registry.get? id).bind mergedVariables? = none)
      (hrest : Merges ids registry rest trace registry') : Merges ids registry (id :: rest) trace registry'
  | rename {registry renamed registry' : Registry} {r : Renaming} {rest : List EquationId}
      {trace : List Renaming} (hrename : Renames ids registry r renamed)
      (hrest : Merges ids renamed rest trace registry') :
      Merges ids registry (r.cause :: rest) (r :: trace) registry'

variable {r : Renaming} {trace : List Renaming} {id other : EquationId}

/-- A merging with a trace answers with the renamings in it. -/
theorem Merges.mergeFrom_eq (h : registry.Merges ids rest trace registry') :
    registry.mergeFrom ids rest = (registry', .ok (trace.map (·.pair))) := by
  induction h with
  | done registry => rfl
  | skip hnone _ ih => rw [mergeFrom_of_none hnone, ih]
  | rename hrename _ ih =>
    rw [mergeFrom_of_ok hrename.called hrename.renamed, ih]
    rfl

/-- A merging that succeeds has a trace. -/
theorem exists_merges {renamings : List (Int × Int)} (hok : (registry.mergeFrom ids rest).2 = .ok renamings) :
    ∃ trace, registry.Merges ids rest trace (registry.mergeFrom ids rest).1 := by
  induction rest generalizing registry renamings with
  | nil => exact ⟨[], .done registry⟩
  | cons id rest ih =>
    cases hcalled : (registry.get? id).bind mergedVariables? with
    | none =>
      rw [mergeFrom_of_none hcalled] at hok ⊢
      obtain ⟨trace, hmerges⟩ := ih hok
      exact ⟨trace, .skip hcalled hmerges⟩
    | some both =>
      obtain ⟨source, target⟩ := both
      rcases hrename : registry.renameAll source target (ids.filter (· ≠ id)) with ⟨renamed, outcome⟩
      cases outcome with
      | error error =>
        rw [mergeFrom_of_error hcalled hrename] at hok
        cases hok
      | ok =>
        rw [mergeFrom_of_ok hcalled hrename] at hok ⊢
        cases hlater : (renamed.mergeFrom ids rest).2 with
        | error error =>
          rw [hlater] at hok
          cases hok
        | ok later =>
          obtain ⟨trace, hmerges⟩ := ih hlater
          have hrenames : registry.Renames ids ⟨id, source, target⟩ renamed := ⟨hcalled, hrename⟩
          exact ⟨_, .rename hrenames hmerges⟩

/-! ### One renaming -/

theorem Renames.lt (h : registry.Renames ids r registry') : r.target < r.source := by
  obtain ⟨_, _, hmerged⟩ := Option.bind_eq_some_iff.mp h.called
  exact lt_of_mergedVariables? hmerged

theorem Renames.kept (h : registry.Renames ids r registry') :
    registry'.get? r.cause = registry.get? r.cause := by
  have hcause : r.cause ∉ ids.filter (· ≠ r.cause) := by simp
  have hkept := get?_renameAll_of_not_mem hcause registry r.source r.target
  rwa [h.renamed] at hkept

theorem Renames.get?_of_ne (hnodup : ids.Nodup) (h : registry.Renames ids r registry') (hother : other ∈ ids)
    (hne : other ≠ r.cause) :
    (registry'.get? other = (registry.get? other).map fun equation => (equation.rename r.source r.target).1) ∧
      ∀ equation, registry.get? other = some equation → (equation.rename r.source r.target).2 = .ok () := by
  have hmem : other ∈ ids.filter (· ≠ r.cause) := by simp [hother, hne]
  have hok : (registry.renameAll r.source r.target (ids.filter (· ≠ r.cause))).2 = .ok () := by
    rw [h.renamed]
  constructor
  · have hget := get?_renameAll (hnodup.filter _) hok other
    rwa [h.renamed, if_pos hmem] at hget
  · exact (renameAll_eq_ok_iff (hnodup.filter _)).mp hok other hmem

theorem Renames.exists_get? (hnodup : ids.Nodup) (h : registry.Renames ids r registry') (hother : other ∈ ids)
    (hne : other ≠ r.cause) (hget : registry.get? other = some equation) :
    ∃ equation', registry'.get? other = some equation' ∧
      equation.rename r.source r.target = (equation', .ok ()) := by
  obtain ⟨hget', hok⟩ := h.get?_of_ne hnodup hother hne
  rw [hget] at hget'
  exact ⟨_, hget', Prod.ext rfl (hok equation hget)⟩

theorem Renames.kept_or_renamed (hnodup : ids.Nodup) (h : registry.Renames ids r registry') (hid : id ∈ ids)
    (hget' : registry'.get? id = some equation') :
    id = r.cause ∧ registry.get? id = some equation' ∨
      ∃ equation, registry.get? id = some equation ∧
        equation.rename r.source r.target = (equation', .ok ()) := by
  by_cases hcause : id = r.cause
  · rw [hcause, h.kept] at hget'
    exact .inl ⟨hcause, hcause ▸ hget'⟩
  · obtain ⟨hold, hok⟩ := h.get?_of_ne hnodup hid hcause
    obtain ⟨equation, hget, hrenamed⟩ := Option.map_eq_some_iff.mp (hold.symm.trans hget')
    exact .inr ⟨equation, hget, Prod.ext hrenamed (hok equation hget)⟩

structure Eliminated (registry : Registry) (ids : List EquationId) (id : EquationId) (x : Int) : Prop where
  greater : ∃ y, (registry.get? id).bind mergedVariables? = some (x, y)
  absent : ∀ other ∈ ids, other ≠ id → ∀ equation, registry.get? other = some equation →
    x ∉ equation.occurrences

/-- A renaming eliminates its source, which stays in the cause alone. -/
theorem Renames.eliminated (hnodup : ids.Nodup) (h : registry.Renames ids r registry') :
    registry'.Eliminated ids r.cause r.source where
  greater := ⟨r.target, by rw [h.kept, h.called]⟩
  absent other hother hne equation' hget' := by
    rcases h.kept_or_renamed hnodup hother hget' with ⟨hcause, _⟩ | ⟨equation, _, hrenamed⟩
    · exact absurd hcause hne
    · rw [Equation.mem_occurrences_of_rename hrenamed]
      rintro (⟨heq, _⟩ | ⟨hself, _⟩)
      · exact Int.ne_of_lt h.lt heq.symm
      · exact hself rfl

theorem Renames.mem_occurrences (h : registry.Renames ids r registry')
    (hget : registry.get? r.cause = some equation) :
    r.source ∈ equation.occurrences ∧ r.target ∈ equation.occurrences := by
  have hmerged := h.called
  rw [hget, Option.bind_some] at hmerged
  exact mem_occurrences_of_mergedVariables? hmerged

theorem Eliminated.isSome_variables? (he : registry.Eliminated ids id x)
    (hget : registry.get? id = some equation) : equation.variables?.isSome := by
  obtain ⟨y, hcalled⟩ := he.greater
  rw [hget, Option.bind_some] at hcalled
  obtain ⟨_, _, hlink, _⟩ := mergedVariables?_eq_some_iff_link?.mp hcalled
  rw [Equation.isSome_variables?, hlink, Option.isSome_some]

theorem Eliminated.mem_occurrences_iff (he : registry.Eliminated ids id x) (hother : other ∈ ids)
    (hget : registry.get? other = some equation) : x ∈ equation.occurrences ↔ other = id := by
  constructor
  · intro hx
    by_contra hne
    exact he.absent other hother hne equation hget hx
  · rintro rfl
    obtain ⟨y, hcalled⟩ := he.greater
    rw [hget, Option.bind_some] at hcalled
    exact (mem_occurrences_of_mergedVariables? hcalled).1

/-- A renaming that another equation calls for does not mention what is eliminated. -/
theorem Eliminated.ne (he : registry.Eliminated ids id x) (h : registry.Renames ids r registry')
    (hcause : r.cause ∈ ids) (hne : r.cause ≠ id) : r.source ≠ x ∧ r.target ≠ x := by
  obtain ⟨equation, hget, _⟩ := Option.bind_eq_some_iff.mp h.called
  obtain ⟨hsource, htarget⟩ := h.mem_occurrences hget
  have habsent := he.absent r.cause hcause hne equation hget
  exact ⟨ne_of_mem_of_not_mem hsource habsent, ne_of_mem_of_not_mem htarget habsent⟩

/-- What is eliminated stays so when others are renamed. -/
theorem Eliminated.renames (hnodup : ids.Nodup) (he : registry.Eliminated ids id x) (hid : id ∈ ids)
    (h : registry.Renames ids r registry') (hcause : r.cause ∈ ids) (hne : r.cause ≠ id) :
    registry'.Eliminated ids id x := by
  obtain ⟨hsource, htarget⟩ := he.ne h hcause hne
  constructor
  · obtain ⟨y, hcalled⟩ := he.greater
    obtain ⟨equation, hget, hmerged⟩ := Option.bind_eq_some_iff.mp hcalled
    obtain ⟨equation', hget', hrenamed⟩ := h.exists_get? hnodup hid (Ne.symm hne) hget
    have hmerged' := mergedVariables?_of_rename hmerged h.lt hsource htarget hrenamed
    exact ⟨_, by rw [hget', Option.bind_some, hmerged']⟩
  · intro other hother hotherne equation' hget'
    rcases h.kept_or_renamed hnodup hother hget' with ⟨_, hget⟩ | ⟨equation, hget, hrenamed⟩
    · exact he.absent other hother hotherne equation' hget
    · rw [Equation.mem_occurrences_of_rename hrenamed]
      rintro (⟨rfl, _⟩ | ⟨_, hx⟩)
      · exact htarget rfl
      · exact he.absent other hother hotherne equation hget hx

theorem Renames.bind_eq_none (hnodup : ids.Nodup) (h : registry.Renames ids r registry') (hid : id ∈ ids)
    (hnone : (registry.get? id).bind mergedVariables? = none) :
    (registry'.get? id).bind mergedVariables? = none := by
  rw [Option.bind_eq_none_iff] at hnone ⊢
  intro equation' hget'
  rcases h.kept_or_renamed hnodup hid hget' with ⟨_, hget⟩ | ⟨equation, hget, hrenamed⟩
  · exact hnone equation' hget
  · exact mergedVariables?_of_rename_eq_none (hnone equation hget) hrenamed

theorem Renames.map_isSome (hnodup : ids.Nodup) (h : registry.Renames ids r registry') (hid : id ∈ ids) :
    (registry'.get? id).map (·.variables?.isSome) = (registry.get? id).map (·.variables?.isSome) := by
  by_cases heq : id = r.cause
  · rw [heq, h.kept]
  · obtain ⟨hget', hok⟩ := h.get?_of_ne hnodup hid heq
    rw [hget']
    cases hget : registry.get? id with
    | none => rfl
    | some equation =>
      have hrenamed : equation.rename r.source r.target = (_, .ok ()) := Prod.ext rfl (hok equation hget)
      simp only [Option.map_some, Equation.isSome_variables?, Equation.link?_of_rename hrenamed,
        Option.isSome_map]

/-- The cause still holds both variables, so none gets lost, and others do not come. -/
theorem Renames.mentions (hnodup : ids.Nodup) (h : registry.Renames ids r registry') (hcause : r.cause ∈ ids) :
    Equations.Mentions (registry'.select ids) x ↔ Equations.Mentions (registry.select ids) x := by
  obtain ⟨cause, hget, _⟩ := Option.bind_eq_some_iff.mp h.called
  obtain ⟨hsource, htarget⟩ := h.mem_occurrences hget
  have hget' : registry'.get? r.cause = some cause := h.kept.trans hget
  constructor
  · rintro ⟨equation', hmem, hx⟩
    obtain ⟨id, hid, hget'⟩ := mem_select.mp hmem
    rcases h.kept_or_renamed hnodup hid hget' with ⟨_, hold⟩ | ⟨equation, hold, hrenamed⟩
    · exact ⟨equation', mem_select.mpr ⟨id, hid, hold⟩, hx⟩
    · rcases (Equation.mem_occurrences_of_rename hrenamed).mp hx with ⟨rfl, _⟩ | ⟨_, hx⟩
      · exact ⟨cause, mem_select.mpr ⟨r.cause, hcause, hget⟩, htarget⟩
      · exact ⟨equation, mem_select.mpr ⟨id, hid, hold⟩, hx⟩
  · rintro ⟨equation, hmem, hx⟩
    obtain ⟨id, hid, hold⟩ := mem_select.mp hmem
    by_cases heq : id = r.cause
    · rw [heq, ← h.kept, ← heq] at hold
      exact ⟨equation, mem_select.mpr ⟨id, hid, hold⟩, hx⟩
    · by_cases hxsource : x = r.source
      · exact ⟨cause, mem_select.mpr ⟨r.cause, hcause, hget'⟩, hxsource ▸ hsource⟩
      · obtain ⟨equation', hget', hrenamed⟩ := h.exists_get? hnodup hid heq hold
        exact ⟨equation', mem_select.mpr ⟨id, hid, hget'⟩,
          (Equation.mem_occurrences_of_rename hrenamed).mpr (.inr ⟨hxsource, hx⟩)⟩

/-! ### The whole pass -/

/-- What every renaming keeps, a merging keeps. -/
theorem Merges.preserves {p : Registry → Prop} (h : registry.Merges ids rest trace registry')
    (hrest : ∀ id ∈ rest, id ∈ ids)
    (hstep : ∀ registry r registry', r.cause ∈ ids → Renames ids registry r registry' →
      p registry → p registry') (hp : p registry) : p registry' := by
  induction h with
  | done registry => exact hp
  | skip _ _ ih => exact ih (List.forall_mem_cons.mp hrest).2 hp
  | rename hrename _ ih =>
    obtain ⟨hcause, hrest⟩ := List.forall_mem_cons.mp hrest
    exact ih hrest (hstep _ _ _ hcause hrename hp)

/-- Equations between variables come from such equations, place by place. -/
theorem Merges.map_isSome (hnodup : ids.Nodup) (h : registry.Merges ids rest trace registry')
    (hrest : ∀ id ∈ rest, id ∈ ids) :
    (registry'.select ids).map (·.variables?.isSome) = (registry.select ids).map (·.variables?.isSome) := by
  rw [select, select, List.map_filterMap, List.map_filterMap]
  apply List.filterMap_congr
  intro id hid
  refine h.preserves (p := fun renamed => (renamed.get? id).map (·.variables?.isSome) =
    (registry.get? id).map (·.variables?.isSome)) hrest ?_ rfl
  intro renamed r renamed' _ hrename hsame
  exact (hrename.map_isSome hnodup hid).trans hsame

/-- The same variables occur before and after a merging. -/
theorem Merges.mentions (hnodup : ids.Nodup) (h : registry.Merges ids rest trace registry')
    (hrest : ∀ id ∈ rest, id ∈ ids) :
    Equations.Mentions (registry'.select ids) x ↔ Equations.Mentions (registry.select ids) x := by
  refine h.preserves (p := fun renamed => Equations.Mentions (renamed.select ids) x ↔
    Equations.Mentions (registry.select ids) x) hrest ?_ Iff.rfl
  intro renamed r renamed' hcause hrename hsame
  exact (hrename.mentions hnodup hcause).trans hsame

theorem Merges.eliminated (hnodup : ids.Nodup) (h : registry.Merges ids rest trace registry')
    (hrest : ∀ id ∈ rest, id ∈ ids) (hid : id ∈ ids) (hpast : id ∉ rest)
    (he : registry.Eliminated ids id x) :
    registry'.Eliminated ids id x ∧ ∀ r ∈ trace, r.source ≠ x ∧ r.target ≠ x := by
  induction h with
  | done registry => exact ⟨he, nofun⟩
  | skip _ _ ih => exact ih (List.forall_mem_cons.mp hrest).2 (List.not_mem_of_not_mem_cons hpast) he
  | rename hrename _ ih =>
    obtain ⟨hcause, hrest⟩ := List.forall_mem_cons.mp hrest
    rw [List.mem_cons, not_or] at hpast
    have hne := Ne.symm hpast.1
    obtain ⟨hlast, hlater⟩ := ih hrest hpast.2 (he.renames hnodup hid hrename hcause hne)
    exact ⟨hlast, List.forall_mem_cons.mpr ⟨he.ne hrename hcause hne, hlater⟩⟩

structure Eliminates (registry : Registry) (ids rest : List EquationId) (trace : List Renaming) : Prop where
  descends : ∀ r ∈ trace, r.target < r.source
  fresh : trace.Pairwise fun earlier later =>
    later.source ≠ earlier.source ∧ later.target ≠ earlier.source
  eliminated : ∀ r ∈ trace, registry.Eliminated ids r.cause r.source
  called : rest.filterMap (fun id => ((registry.get? id).bind mergedVariables?).map fun both => (id, both.1)) =
    trace.map fun r => (r.cause, r.source)

/-- Each renaming eliminates its source for good: no later one takes it up or leads back to it. -/
theorem Merges.eliminates (hnodup : ids.Nodup) (h : registry.Merges ids rest trace registry')
    (hrest : ∀ id ∈ rest, id ∈ ids) (hdistinct : rest.Nodup) : registry'.Eliminates ids rest trace := by
  induction h with
  | done registry => exact ⟨nofun, .nil, nofun, rfl⟩
  | @skip registry registry' id rest trace hnone hmerges ih =>
    obtain ⟨hid, hrest⟩ := List.forall_mem_cons.mp hrest
    have hnone' : (registry'.get? id).bind mergedVariables? = none :=
      hmerges.preserves hrest (fun _ _ _ _ hrename hnone => hrename.bind_eq_none hnodup hid hnone) hnone
    obtain ⟨hdescends, hfresh, heliminated, hcalled⟩ := ih hrest (List.nodup_cons.mp hdistinct).2
    refine ⟨hdescends, hfresh, heliminated, ?_⟩
    rw [List.filterMap_cons, hnone', Option.map_none, hcalled]
  | @rename registry renamed registry' r rest trace hrename hmerges ih =>
    obtain ⟨hcause, hrest⟩ := List.forall_mem_cons.mp hrest
    obtain ⟨hpast, hdistinct⟩ := List.nodup_cons.mp hdistinct
    -- the cause does not come again, so nothing later mentions what it eliminated
    obtain ⟨hfirst, hlater⟩ :=
      hmerges.eliminated hnodup hrest hcause hpast (hrename.eliminated hnodup)
    obtain ⟨hdescends, hfresh, heliminated, hcalled⟩ := ih hrest hdistinct
    obtain ⟨y, hcalledFirst⟩ := hfirst.greater
    refine ⟨List.forall_mem_cons.mpr ⟨hrename.lt, hdescends⟩, List.pairwise_cons.mpr ⟨hlater, hfresh⟩,
      List.forall_mem_cons.mpr ⟨hfirst, heliminated⟩, ?_⟩
    rw [List.filterMap_cons, hcalledFirst, Option.map_some, hcalled, List.map_cons]

theorem Eliminates.cause_mem (h : registry.Eliminates ids rest trace) (hr : r ∈ trace) : r.cause ∈ rest := by
  have hmem : (r.cause, r.source) ∈ trace.map fun r => (r.cause, r.source) := List.mem_map_of_mem hr
  rw [← h.called, List.mem_filterMap] at hmem
  obtain ⟨id, hid, hcalled⟩ := hmem
  obtain ⟨_, _, heq⟩ := Option.map_eq_some_iff.mp hcalled
  obtain ⟨hcause, _⟩ := Prod.mk.inj heq
  exact hcause ▸ hid

/-- Each equation that still calls for a renaming has done so before. -/
theorem Eliminates.of_called (h : registry.Eliminates ids rest trace) (hid : id ∈ rest)
    (hcalled : (registry.get? id).bind mergedVariables? = some (source, target)) :
    registry.Eliminated ids id source := by
  have hmem : (id, source) ∈ trace.map fun r => (r.cause, r.source) := by
    rw [← h.called, List.mem_filterMap]
    exact ⟨id, hid, by rw [hcalled, Option.map_some]⟩
  obtain ⟨r, hr, heq⟩ := List.mem_map.mp hmem
  cases heq
  exact h.eliminated r hr

theorem Eliminates.map_fst (h : registry.Eliminates ids rest trace) :
    (rest.filterMap fun id => (registry.get? id).bind mergedVariables?).map Prod.fst =
      (trace.map (·.pair)).map Prod.fst := by
  calc
    (rest.filterMap fun id => (registry.get? id).bind mergedVariables?).map Prod.fst =
      (rest.filterMap fun id =>
        ((registry.get? id).bind mergedVariables?).map fun both => (id, both.1)).map Prod.snd := by
        simp only [List.map_filterMap, Option.map_map]
        rfl
    _ = (trace.map (·.pair)).map Prod.fst := by
        rw [h.called, List.map_map, List.map_map]
        rfl

/-- Where all that calls for a renaming is eliminated, merging repeats it without effect. -/
theorem mergeFrom_of_eliminated
    (heliminated : ∀ id ∈ rest, ∀ source target,
      (registry.get? id).bind mergedVariables? = some (source, target) → registry.Eliminated ids id source) :
    registry.mergeFrom ids rest =
      (registry, .ok (rest.filterMap fun id => (registry.get? id).bind mergedVariables?)) := by
  induction rest with
  | nil => rfl
  | cons id rest ih =>
    obtain ⟨hid, hrest⟩ := List.forall_mem_cons.mp heliminated
    cases hcalled : (registry.get? id).bind mergedVariables? with
    | none => rw [mergeFrom_of_none hcalled, ih hrest, List.filterMap_cons, hcalled]
    | some both =>
      obtain ⟨source, target⟩ := both
      have hrename : registry.renameAll source target (ids.filter (· ≠ id)) = (registry, .ok ()) := by
        apply renameAll_of_not_mem
        intro other hother
        obtain ⟨hmem, hne⟩ := List.mem_filter.mp hother
        exact (hid source target hcalled).absent other hmem (of_decide_eq_true hne)
      rw [mergeFrom_of_ok hcalled hrename, ih hrest, List.filterMap_cons, hcalled]
      rfl

/-! ### Where no variable is negative -/

theorem exists_renames (hnodup : ids.Nodup) (hid : id ∈ ids)
    (hnatural : ∀ equation ∈ registry.select ids, 0 ≤ equation.var)
    (hcalled : (registry.get? id).bind mergedVariables? = some (source, target)) :
    ∃ registry', registry.Renames ids ⟨id, source, target⟩ registry' ∧
      ∀ equation ∈ registry'.select ids, 0 ≤ equation.var := by
  obtain ⟨cause, hget, hmerged⟩ := Option.bind_eq_some_iff.mp hcalled
  have htarget : 0 ≤ target := by
    obtain ⟨y, _, _, _, rfl⟩ := mergedVariables?_eq_some_iff.mp hmerged
    have hvar := hnatural cause (mem_select.mpr ⟨id, hid, hget⟩)
    omega
  have hlt := lt_of_mergedVariables? hmerged
  obtain ⟨m, rfl⟩ := Int.eq_ofNat_of_zero_le htarget
  obtain ⟨n, rfl⟩ := Int.eq_ofNat_of_zero_le (Int.le_trans htarget (Int.le_of_lt hlt))
  obtain ⟨hok, _⟩ := renameAll_natCast (hnodup.filter (· ≠ id)) registry n m
  have hrenames : registry.Renames ids ⟨id, n, m⟩ _ := ⟨hcalled, Prod.ext rfl hok⟩
  refine ⟨_, hrenames, ?_⟩
  intro equation' hmem
  obtain ⟨other, hother, hget'⟩ := mem_select.mp hmem
  rcases hrenames.kept_or_renamed hnodup hother hget' with ⟨_, hold⟩ | ⟨equation, hold, hrenamed⟩
  · exact hnatural equation' (mem_select.mpr ⟨other, hother, hold⟩)
  · have hvar := hnatural equation (mem_select.mpr ⟨other, hother, hold⟩)
    obtain ⟨rhs, _, rfl⟩ := Equation.rename_eq_ok_iff.mp hrenamed
    rw [Function.update_apply]
    split
    · exact htarget
    · exact hvar

/-- Where no left side is negative a merging cannot fail. -/
theorem exists_merges_of_nonneg (hnodup : ids.Nodup) (hrest : ∀ id ∈ rest, id ∈ ids)
    (hnatural : ∀ equation ∈ registry.select ids, 0 ≤ equation.var) :
    ∃ trace registry', registry.Merges ids rest trace registry' := by
  induction rest generalizing registry with
  | nil => exact ⟨[], registry, .done registry⟩
  | cons id rest ih =>
    obtain ⟨hid, hrest⟩ := List.forall_mem_cons.mp hrest
    cases hcalled : (registry.get? id).bind mergedVariables? with
    | none =>
      obtain ⟨trace, registry', hmerges⟩ := ih hrest hnatural
      exact ⟨trace, registry', .skip hcalled hmerges⟩
    | some both =>
      obtain ⟨renamed, hrename, hnatural'⟩ := exists_renames hnodup hid hnatural hcalled
      obtain ⟨trace, registry', hmerges⟩ := ih hrest hnatural'
      exact ⟨_, registry', .rename hrename hmerges⟩

end Registry

namespace Elimination

variable {state : Elimination} {renamings : List (Int × Int)} {trace : List Registry.Renaming}

theorem snd_merge (state : Elimination) :
    state.merge.2 = (state.registry.mergeFrom state.ids state.ids).2.mapError Failure.invalidId :=
  rfl

theorem exists_trace (hok : state.merge.2 = .ok renamings) :
    ∃ trace, state.registry.Merges state.ids state.ids trace state.merge.1.registry ∧
      renamings = trace.map (·.pair) := by
  rw [snd_merge] at hok
  cases houtcome : (state.registry.mergeFrom state.ids state.ids).2 with
  | error error =>
    rw [houtcome] at hok
    cases hok
  | ok found =>
    obtain ⟨trace, hmerges⟩ := Registry.exists_merges houtcome
    rw [hmerges.mergeFrom_eq] at hok
    cases hok
    exact ⟨trace, hmerges, rfl⟩

theorem merge_of_merge_eq_self (hself : state.registry.merge state.ids = (state.registry, .ok renamings)) :
    state.merge = (state, .ok renamings) := by
  simp only [merge, hself]
  rfl

/-- **Merging eliminates for good.** If it comes to an end, the renamings lead from different variables to
smaller ones, and none mentions what one before it has eliminated. Each eliminated variable is left in the one
equation that called for its renaming. It stays with as many equations, with those between variables in the
same places, and with the same variables in all. Another merging changes nothing, and renames the same
variables in the same order. Where no variable is negative it comes to an end. -/
theorem merge_eliminates (state : Elimination) :
    (∀ renamings, state.merge.2 = .ok renamings →
      (renamings.map Prod.fst).Nodup ∧
      (∀ pair ∈ renamings, pair.2 < pair.1) ∧
      (renamings.Pairwise fun earlier later => later.1 ≠ earlier.1 ∧ later.2 ≠ earlier.1) ∧
      (∃ trace, state.registry.Merges state.ids state.ids trace state.merge.1.registry ∧
        renamings = trace.map (·.pair) ∧
        ∀ r ∈ trace, r.cause ∈ state.ids ∧ ∀ id ∈ state.ids, ∃ equation,
          state.merge.1.registry.get? id = some equation ∧
          (r.source ∈ equation.occurrences ↔ id = r.cause) ∧
          (id = r.cause → equation.variables?.isSome)) ∧
      state.merge.1.ids = state.ids ∧
      state.merge.1.equations.map (·.variables?.isSome) = state.equations.map (·.variables?.isSome) ∧
      (∀ x, state.merge.1.equations.Mentions x ↔ state.equations.Mentions x) ∧
      ∃ again, state.merge.1.merge = (state.merge.1, .ok again) ∧
        again.map Prod.fst = renamings.map Prod.fst) ∧
    ((∀ equation ∈ state.equations, 0 ≤ equation.var) → ∃ renamings, state.merge.2 = .ok renamings) := by
  have hall : ∀ id ∈ state.ids, id ∈ state.ids := fun _ hid => hid
  constructor
  · intro renamings hok
    obtain ⟨trace, hmerges, rfl⟩ := exists_trace hok
    have heliminates := hmerges.eliminates state.nodup_ids hall state.nodup_ids
    refine ⟨?_, ?_, ?_, ⟨trace, hmerges, rfl, ?_⟩, rfl, ?_, ?_, ?_⟩
    · rw [List.map_map, List.Nodup, List.pairwise_map]
      exact heliminates.fresh.imp fun hfresh => Ne.symm hfresh.1
    · exact List.forall_mem_map.mpr heliminates.descends
    · exact List.pairwise_map.mpr heliminates.fresh
    · intro r hr
      have heliminated := heliminates.eliminated r hr
      refine ⟨heliminates.cause_mem hr, ?_⟩
      intro id hid
      obtain ⟨equation, hget⟩ := Registry.exists_get?_of_lt (state.merge.1.ids_lt id hid)
      refine ⟨equation, hget, heliminated.mem_occurrences_iff hid hget, ?_⟩
      rintro rfl
      exact heliminated.isSome_variables? hget
    · exact hmerges.map_isSome state.nodup_ids hall
    · exact fun x => hmerges.mentions state.nodup_ids hall
    · have hself := Registry.mergeFrom_of_eliminated fun id hid _ _ => heliminates.of_called hid
      exact ⟨_, merge_of_merge_eq_self hself, heliminates.map_fst⟩
  · intro hnatural
    obtain ⟨trace, registry', hmerges⟩ := Registry.exists_merges_of_nonneg state.nodup_ids hall hnatural
    rw [snd_merge, hmerges.mergeFrom_eq]
    exact ⟨_, rfl⟩

/-- The second renaming changes the equation of the first, so that another merging goes from 2 to 0. -/
theorem merge_eliminates_of_four :
    let state := start ⟨#[⟨1, .var 2⟩, ⟨0, .var 1⟩, ⟨0, .var 2⟩, ⟨4, .pair (.var 2) .int⟩]⟩ [0, 1, 2, 3] 0 none
    state.merge.2 = .ok [(2, 1), (1, 0)] ∧
      state.merge.1.equations = [⟨0, .var 2⟩, ⟨0, .var 1⟩, ⟨0, .var 0⟩, ⟨4, .pair (.var 0) .int⟩] ∧
      (∃ again, state.merge.1.merge = (state.merge.1, .ok again) ∧ again.map Prod.fst = [2, 1]) ∧
      ∃ renamings, state.merge.2 = .ok renamings := by
  intro state
  have hequations : state.merge.1.equations =
      [⟨0, .var 2⟩, ⟨0, .var 1⟩, ⟨0, .var 0⟩, ⟨4, .pair (.var 0) .int⟩] := by decide
  have hnatural : ∀ equation ∈ state.equations, 0 ≤ equation.var := by decide
  have hanswer : state.merge.2.toOption = some [(2, 1), (1, 0)] := by decide
  obtain ⟨hmerge, hreturns⟩ := merge_eliminates state
  obtain ⟨renamings, hok⟩ := hreturns hnatural
  rw [hok] at hanswer
  cases hanswer
  obtain ⟨_, _, _, _, _, _, _, hagain⟩ := hmerge _ hok
  exact ⟨hok, hequations, hagain, hreturns hnatural⟩

end Elimination

end TypeEquations
