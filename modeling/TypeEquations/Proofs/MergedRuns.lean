import Mathlib.Order.Preorder.Finite
import TypeEquations.Proofs.Calls
import TypeEquations.Proofs.Merging
import TypeEquations.Proofs.Unifier

/-!
# Runs with merging

Constraints with and without merging between them have the same unifiers, but not the same first equations.
A variable may lose its equation to a smaller one that has another in front of it, and constraints added after
a merging may close a cycle of variables. What remains: an outcome without variables is the right one, types
are normalized where no variable is defined twice, and they are normalized, if not to the end, right after a
merging.
-/

namespace TypeEquations

/-- There is no cycle if each step on which another one follows descends. -/
theorem not_transGen_of_descends {α : Type} {r s : α → α → Prop} (htrans : ∀ a b c, s a b → s b c → s a c)
    (hirrefl : ∀ a, ¬ s a a) (hstep : ∀ a b c, r a b → r b c → s a b) {a : α} : ¬ Relation.TransGen r a a := by
  have hpath : ∀ b, Relation.TransGen r a b → ∀ c, r b c → s a b := by
    intro b hpath
    induction hpath with
    | single hfirst => exact fun c hnext => hstep a _ c hfirst hnext
    | tail _ hlast ih => exact fun c hnext => htrans a _ _ (ih _ hlast) (hstep _ _ c hlast hnext)
  intro hcycle
  obtain ⟨b, hfirst, _⟩ := Relation.TransGen.head'_iff.mp hcycle
  exact hirrefl a (hpath a hcycle b hfirst)

namespace Registry

variable {registry : Registry} {ids : List EquationId} {assignment : Assignment}

/-- The first equation of a variable has the least of the numbers. -/
theorem exists_first_of_lookup? (hsorted : ids.Pairwise (· < ·)) {x : Int} {equation : Equation}
    (hfound : Equations.lookup? (registry.select ids) x = some equation) :
    ∃ id ∈ ids, registry.get? id = some equation ∧
      ∀ other ∈ ids, other < id → ∀ equation', registry.get? other = some equation' → equation'.var ≠ x := by
  induction ids with
  | nil => cases hfound
  | cons id rest ih =>
    obtain ⟨hless, hrest⟩ := List.pairwise_cons.mp hsorted
    have hfirst : ∀ other ∈ id :: rest, ¬ other < id := by
      intro other hother hlt
      rcases List.mem_cons.mp hother with rfl | hother
      · exact Nat.lt_irrefl _ hlt
      · exact Nat.lt_asymm hlt (hless other hother)
    by_cases hhead : ∃ equation', registry.get? id = some equation' ∧ equation'.var = x
    · obtain ⟨equation', hget, hvar⟩ := hhead
      have hfound' : Equations.lookup? (registry.select (id :: rest)) x = some equation' := by
        simp [Equations.lookup?, select, hget, hvar]
      obtain rfl := Option.some.inj (hfound.symm.trans hfound')
      exact ⟨id, List.mem_cons_self, hget, fun other hother hlt => absurd hlt (hfirst other hother)⟩
    · have hskip : ∀ equation', registry.get? id = some equation' → equation'.var ≠ x :=
        fun equation' hget hvar => hhead ⟨equation', hget, hvar⟩
      have hfound' : Equations.lookup? (registry.select rest) x = some equation := by
        rw [← hfound]
        cases hget : registry.get? id with
        | none => simp [Equations.lookup?, select, hget]
        | some equation' => simp [Equations.lookup?, select, hget, hskip equation' hget]
      obtain ⟨id', hid', hget, hleast⟩ := ih hrest hfound'
      refine ⟨id', List.mem_cons_of_mem id hid', hget, ?_⟩
      intro other hother hlt
      rcases List.mem_cons.mp hother with rfl | hother
      · exact hskip
      · exact hleast other hother hlt

/-! ### Right after a merging -/

/-- Where all equations are settled, a first equation between variables leads down, or to a variable without
an equation. -/
theorem Regular.lt_or_lookup?_eq_none (hregular : registry.Regular ids)
    (hsettled : ∀ id ∈ ids, registry.Settled ids id) {x y : Nat}
    (hfound : Equations.lookup? (registry.select ids) x = some ⟨x, .var y⟩) :
    y < x ∨ Equations.lookup? (registry.select ids) y = none := by
  obtain ⟨id, hid, hget, hfirst⟩ := exists_first_of_lookup? hregular.sorted hfound
  rcases Nat.lt_trichotomy x y with hlt | rfl | hgt
  · right
    cases hnext : Equations.lookup? (registry.select ids) y with
    | none => rfl
    | some equation =>
      -- the greater variable `y` stands in no other equation
      obtain ⟨other, hother, hget', _⟩ := exists_first_of_lookup? hregular.sorted hnext
      have hvar : equation.var = y := Equations.var_of_lookup? hnext
      have hne : other ≠ id := by
        rintro rfl
        rw [hget] at hget'
        cases hget'
        exact absurd (Int.ofNat_inj.mp hvar) (Nat.ne_of_lt hlt)
      have habsent := hsettled id hid x y hget (Nat.ne_of_lt hlt) other hother hne equation hget'
      rw [Nat.max_eq_right (Nat.le_of_lt hlt)] at habsent
      exact absurd (.inl hvar) habsent
  · -- an equation of a variable with itself has one in front of it that leads upwards
    obtain ⟨z, hz, hpath⟩ := hregular.ascends id hid x x hget
    rcases hpath.cases_head with rfl | ⟨w, ⟨other, hother, hlt, hget'⟩, _⟩
    · exact absurd hz (Nat.lt_irrefl x)
    · exact absurd rfl (hfirst other hother hlt _ hget')
  · exact .inl hgt

/-- As long as it goes on, the assigned type gets smaller, or it stays and the variable gets smaller. -/
theorem Regular.descends_of_settled (hregular : registry.Regular ids)
    (hsettled : ∀ id ∈ ids, registry.Settled ids id) (hsolves : assignment.Solves (registry.select ids))
    {x y : Nat} (hstep : Equations.DependsOn (registry.select ids) x y)
    (hnext : Equations.lookup? (registry.select ids) y ≠ none) :
    sizeOf (assignment y) < sizeOf (assignment x) ∨ assignment y = assignment x ∧ y < x := by
  refine (hstep.smaller_or_link hsolves).imp_right fun ⟨himage, hfound⟩ => ⟨himage, ?_⟩
  exact (hregular.lt_or_lookup?_eq_none hsettled hfound).resolve_right hnext

/-- Settled equations that can be solved lead into no cycle. -/
theorem Regular.acyclicFrom_of_settled (hregular : registry.Regular ids)
    (hsettled : ∀ id ∈ ids, registry.Settled ids id) (hsolves : assignment.Solves (registry.select ids))
    (type : Ty) : Equations.AcyclicFrom (registry.select ids) type := by
  intro x _
  let descends (x y : Nat) : Prop :=
    sizeOf (assignment y) < sizeOf (assignment x) ∨ assignment y = assignment x ∧ y < x
  refine not_transGen_of_descends (s := descends) ?_ ?_ ?_
  · intro x y z hxy hyz
    dsimp only [descends] at *
    grind
  · rintro x (hlt | ⟨_, hlt⟩)
    · exact Nat.lt_irrefl _ hlt
    · exact Nat.lt_irrefl _ hlt
  · rintro x y z hstep ⟨equation, hfound, _⟩
    exact hregular.descends_of_settled hsettled hsolves hstep (by simp [hfound])

/-! ### Where no variable is defined twice -/

/-- On a cycle no assigned type gets smaller, so all its equations are between variables. -/
theorem lookup?_eq_link_of_cycle (hsolves : assignment.Solves (registry.select ids)) {x : Nat}
    (hcycle : Relation.TransGen (Equations.DependsOn (registry.select ids)) x x) :
    ∃ y : Nat, Equations.lookup? (registry.select ids) x = some ⟨x, .var y⟩ ∧
      Relation.ReflTransGen (Equations.DependsOn (registry.select ids)) y x := by
  have hle : ∀ {y z : Nat}, Relation.ReflTransGen (Equations.DependsOn (registry.select ids)) y z →
      sizeOf (assignment z) ≤ sizeOf (assignment y) := by
    intro y z hpath
    induction hpath with
    | refl => exact Nat.le_refl _
    | tail _ hstep ih =>
      rcases hstep.smaller_or_link hsolves with hlt | ⟨himage, _⟩
      · omega
      · exact himage ▸ ih
  obtain ⟨y, hstep, hback⟩ := Relation.TransGen.head'_iff.mp hcycle
  rcases hstep.smaller_or_link hsolves with hlt | ⟨_, hfound⟩
  · exact absurd (hle hback) (Nat.not_le.mpr hlt)
  · exact ⟨y, hfound, hback⟩

/-- With one equation for a variable there is one way to go on, so a cycle is not left, and yet it would lead
ever upwards. -/
theorem Regular.acyclicFrom_of_nodup (hregular : registry.Regular ids)
    (hdistinct : ((registry.select ids).map (·.var)).Nodup)
    (hsolves : assignment.Solves (registry.select ids)) (type : Ty) :
    Equations.AcyclicFrom (registry.select ids) type := by
  have hlookup : ∀ {bound : EquationId} {u v : Nat}, registry.Linked ids bound u v →
      Equations.lookup? (registry.select ids) u = some ⟨u, .var v⟩ := by
    rintro bound u v ⟨id, hid, _, hget⟩
    exact Equations.lookup?_var hdistinct (mem_select.mpr ⟨id, hid, hget⟩)
  intro x _ hcycle
  let onCycle : Set Nat := {y | Relation.TransGen (Equations.DependsOn (registry.select ids)) x y ∧
    Relation.TransGen (Equations.DependsOn (registry.select ids)) y x}
  have hfinite : onCycle.Finite := by
    refine (Equations.finite_reaches (registry.select ids) (.var x)).subset ?_
    rintro y ⟨hpath, _⟩
    exact ⟨x, List.mem_singleton_self x, hpath.to_reflTransGen⟩
  obtain ⟨y, ⟨hthere, hback⟩, hgreatest⟩ :=
    hfinite.exists_maximal ⟨x, hcycle, hcycle⟩
  obtain ⟨w, hfound, hwy⟩ := lookup?_eq_link_of_cycle hsolves (hback.trans hthere)
  have hyw : Relation.TransGen (Equations.DependsOn (registry.select ids)) y w :=
    .single ⟨_, hfound, List.mem_singleton_self w⟩
  obtain ⟨id, hid, hget, _⟩ := exists_first_of_lookup? hregular.sorted hfound
  obtain ⟨z, hz, hpath⟩ := hregular.ascends id hid y w hget
  have hstays : ∀ {v : Nat}, Relation.ReflTransGen (registry.Linked ids id) w v → v ∈ onCycle := by
    intro v hpath
    induction hpath with
    | refl => exact ⟨hthere.trans hyw, Relation.TransGen.trans_right hwy hback⟩
    | @tail u v _ hlink ih =>
      have hnext := hlookup hlink
      have hstep : Equations.DependsOn (registry.select ids) u v :=
        ⟨_, hnext, List.mem_singleton_self v⟩
      refine ⟨ih.1.tail hstep, ?_⟩
      -- the only way from `u` is the one to `v`
      obtain ⟨v', ⟨equation, hfound', hv'⟩, hrest⟩ := Relation.TransGen.head'_iff.mp ih.2
      obtain rfl := Option.some.inj (hnext.symm.trans hfound')
      obtain rfl := List.mem_singleton.mp hv'
      exact Relation.TransGen.trans_right hrest hcycle
  exact absurd (hgreatest (hstays hpath) (Nat.le_of_lt hz)) (Nat.not_le.mpr hz)

/-! ### New equations -/

/-- New equations have the greatest numbers; those between variables lead upwards by themselves. -/
theorem Regular.addAll (hregular : registry.Regular ids) (hlt : ∀ id ∈ ids, id < registry.entries.size)
    {equations : List Equation} (hnatural : ∀ equation ∈ equations, ∃ x : Nat, equation.var = x)
    (horiented : ∀ equation ∈ equations, equation.Oriented) :
    (registry.addAll equations).1.Regular (ids ++ (registry.addAll equations).2) := by
  have hnew : ∀ id ∈ (registry.addAll equations).2, ∀ equation,
      (registry.addAll equations).1.get? id = some equation → equation ∈ equations := by
    intro id hid equation hget
    rw [← select_addAll registry equations]
    exact mem_select.mpr ⟨id, hid, hget⟩
  constructor
  · rw [List.pairwise_append]
    refine ⟨hregular.sorted, ids_addAll registry equations ▸ List.pairwise_lt_range', ?_⟩
    intro id hid other hother
    exact Nat.lt_of_lt_of_le (hlt id hid) (mem_addAll.mp hother).1
  · intro id hid equation hget
    rcases List.mem_append.mp hid with hid | hid
    · rw [get?_addAll_of_lt equations (hlt id hid)] at hget
      exact hregular.natural id hid equation hget
    · exact hnatural equation (hnew id hid equation hget)
  · intro id hid x y hget
    rcases List.mem_append.mp hid with hid | hid
    · rw [get?_addAll_of_lt equations (hlt id hid)] at hget
      obtain ⟨z, hz, hpath⟩ := hregular.ascends id hid x y hget
      refine ⟨z, hz, Relation.ReflTransGen.mono ?_ _ _ hpath⟩
      rintro u v ⟨other, hother, hbefore, hget'⟩
      refine ⟨other, List.mem_append_left _ hother, hbefore, ?_⟩
      rw [get?_addAll_of_lt equations (hlt other hother), hget']
    · exact ⟨y, Int.ofNat_lt.mp (horiented _ (hnew id hid _ hget) y rfl), .refl⟩

end Registry

namespace Elimination

def Call.pair? : Call → Option (Ty × Ty)
  | .constrain left right => some (left, right)
  | _ => none

def Call.Builds (call : Call) : Prop :=
  call = .merge ∨ ∃ left right, call = .constrain left right

variable {state : Elimination} {calls : List Call} {type ground : Ty}

theorem regular_of_equations_eq_nil (hempty : state.equations = []) :
    state.registry.Regular state.ids := by
  have hids : state.ids = [] := by
    apply List.eq_nil_iff_forall_not_mem.mpr
    intro id hid
    have hlt := state.ids_lt id hid
    have hmem : state.registry.entries[id] ∈ state.equations :=
      Registry.mem_select.mpr ⟨id, hid, Array.getElem?_eq_getElem hlt⟩
    rw [hempty] at hmem
    cases hmem
  rw [hids]
  exact ⟨.nil, nofun, nofun⟩

/-- Constraints and mergings keep the equations regular. -/
theorem regular_call (hregular : state.registry.Regular state.ids) {call : Call} (hbuilds : call.Builds) :
    (state.call call).1.registry.Regular (state.call call).1.ids := by
  rcases hbuilds with rfl | ⟨left, right, rfl⟩
  · obtain ⟨_, _, hmerged, _⟩ := hregular.merge
    exact hmerged
  · rw [Elimination.call]
    cases hequate : left.equate right with
    | error mismatch =>
      rw [constrain_of_error hequate]
      exact hregular
    | ok equations =>
      rw [constrain_of_ok hequate]
      refine hregular.addAll state.ids_lt ?_ fun _ hmem => Ty.oriented_of_mem_equate hequate hmem
      intro equation hmem
      obtain ⟨x, hvar, _⟩ := Ty.var_of_mem_equate hequate hmem
      exact ⟨x, hvar⟩

theorem regular_callAll (hregular : state.registry.Regular state.ids)
    (hbuilds : ∀ call ∈ calls, call.Builds) :
    (state.callAll calls).1.registry.Regular (state.callAll calls).1.ids := by
  induction calls generalizing state with
  | nil => exact hregular
  | cons call rest ih =>
    obtain ⟨hcall, hrest⟩ := List.forall_mem_cons.mp hbuilds
    exact ih (regular_call hregular hcall) hrest

theorem callAll_append (calls calls' : List Call) :
    (state.callAll (calls ++ calls')).1 = ((state.callAll calls).1.callAll calls').1 := by
  induction calls generalizing state with
  | nil => rfl
  | cons call rest ih => exact ih

/-- A merging at the end leaves all equations settled. -/
theorem settled_callAll_of_getLast? (hregular : state.registry.Regular state.ids)
    (hbuilds : ∀ call ∈ calls, call.Builds) (hlast : calls.getLast? = some .merge) :
    ∀ id ∈ (state.callAll calls).1.ids,
      (state.callAll calls).1.registry.Settled (state.callAll calls).1.ids id := by
  obtain ⟨earlier, rfl⟩ := List.getLast?_eq_some_iff.mp hlast
  rw [callAll_append]
  have hearlier := regular_callAll hregular fun call hcall => hbuilds call (List.mem_append_left _ hcall)
  obtain ⟨_, _, _, hsettled⟩ := hearlier.merge
  exact hsettled

/-- Whether a constraint is accepted does not depend on the equations. -/
theorem accepted_callAll (state state' : Elimination) (calls : List Call)
    (hbuilds : ∀ call ∈ calls, call.Builds) :
    (state.callAll calls).2 = (state'.constrainAll (calls.filterMap Call.pair?)).2 := by
  induction calls generalizing state state' with
  | nil => rfl
  | cons call rest ih =>
    obtain ⟨hcall, hrest⟩ := List.forall_mem_cons.mp hbuilds
    rcases hcall with rfl | ⟨left, right, rfl⟩
    · simp only [callAll, Call.accepted, List.nil_append, List.filterMap_cons, Call.pair?]
      exact ih _ _ hrest
    · simp only [callAll, Elimination.call, List.filterMap_cons, Call.pair?, constrainAll]
      cases hequate : left.equate right with
      | error mismatch =>
        rw [constrain_of_error hequate, constrain_of_error hequate]
        exact ih _ _ hrest
      | ok equations =>
        rw [constrain_of_ok hequate, constrain_of_ok hequate]
        exact congrArg _ (ih _ _ hrest)

theorem Quiet.callAll (hquiet : state.Quiet) (hbuilds : ∀ call ∈ calls, call.Builds) :
    (state.callAll calls).1.Quiet := by
  induction calls generalizing state with
  | nil => exact hquiet
  | cons call rest ih =>
    obtain ⟨hcall, hrest⟩ := List.forall_mem_cons.mp hbuilds
    refine ih ?_ hrest
    rcases hcall with rfl | ⟨left, right, rfl⟩
    · exact hquiet
    · change (state.constrain left right).1.Quiet
      cases hequate : left.equate right with
      | error mismatch =>
        rw [constrain_of_error hequate]
        exact hquiet
      | ok equations =>
        rw [constrain_of_ok hequate]
        exact hquiet

/-- What unifies the accepted pairs solves the equations, merged or not. -/
theorem solves_callAll_of_unifies (hempty : state.equations = []) (hbuilds : ∀ call ∈ calls, call.Builds)
    {assignment : Assignment}
    (hunifies : assignment.Unifies (state.constrainAll (calls.filterMap Call.pair?)).2) :
    assignment.Solves (state.callAll calls).1.equations := by
  rw [solves_callAll, hempty, accepted_callAll state state calls hbuilds]
  exact ⟨Assignment.solves_nil, hunifies⟩

/-- Without merging, unifiers take a type to what it is normalized to. -/
theorem image_eq_of_normalize_eq_ok (hempty : state.equations = []) (hquiet : state.Quiet)
    {pairs : List (Ty × Ty)} {limit : Int}
    (hok : ({ (state.constrainAll pairs).1 with limit }.normalize type).2 = .ok ground)
    (hground : ground.occurrences = []) {assignment : Assignment}
    (hunifies : assignment.Unifies (state.constrainAll pairs).2) : type.image assignment = ground := by
  obtain ⟨_, hunfolds⟩ := unfolds_of_normalize_eq_ok (hquiet.constrainAll pairs) hok
  have hsolves := ((describes_constrainAll_of_empty hempty pairs).solves_iff assignment).mpr hunifies
  rw [← hunfolds.image_eq hsolves, Ty.image_of_occurrences_eq_nil hground]

/-- An equation defines a natural variable, and where no variable depends on itself that unfolds. -/
theorem unfolding_solves_of_regular (hregular : state.registry.Regular state.ids)
    (hdistinct : (state.equations.map (·.var)).Nodup)
    (hacyclic : ∀ type, state.equations.AcyclicFrom type) :
    state.equations.unfolding.Solves state.equations := by
  apply Equations.unfolding_solves hdistinct
  intro equation hmem
  obtain ⟨id, hid, hget⟩ := Registry.mem_select.mp hmem
  obtain ⟨x, hx⟩ := hregular.natural id hid equation hget
  exact ⟨x, hx, Equations.exists_unfolds_of_acyclicFrom (hacyclic (.var x))⟩

/-- **Merging leaves variables or nothing.** Let constraints that have a unifier normalize a type to one
without variables. With mergings between them, whatever the type is normalized to, all unifiers take it to the
same; it is the same if it has no variables. If no variable is defined twice the type is normalized to the
same, and right after a merging it is normalized. -/
theorem normalize_callAll_of_ground (state : Elimination) (hempty : state.equations = [])
    (hquiet : state.Quiet) (calls : List Call) (hbuilds : ∀ call ∈ calls, call.Builds)
    (hunifiable : ∃ assignment : Assignment,
      assignment.Unifies (state.constrainAll (calls.filterMap Call.pair?)).2)
    (type ground : Ty) (hground : ground.occurrences = [])
    (hplain : ∃ limit : Int,
      ({ (state.constrainAll (calls.filterMap Call.pair?)).1 with limit }.normalize type).2 =
        .ok ground) :
    let merged := (state.callAll calls).1
    (∀ (limit : Int) (result : Ty), ({ merged with limit }.normalize type).2 = .ok result →
      (∀ assignment : Assignment,
        assignment.Unifies (state.constrainAll (calls.filterMap Call.pair?)).2 →
          result.image assignment = ground) ∧
      (result = ground ↔ result.occurrences = [])) ∧
    ((merged.equations.map (·.var)).Nodup →
      ∃ bound : Nat, ∀ limit : Int, bound ≤ limit →
        ({ merged with limit }.normalize type).2 = .ok ground) ∧
    (calls.getLast? = some .merge →
      ∃ (result : Ty) (bound : Nat), ∀ limit : Int, bound ≤ limit →
        ({ merged with limit }.normalize type).2 = .ok result) := by
  intro merged
  obtain ⟨limit, hplain⟩ := hplain
  have hquiet' : merged.Quiet := hquiet.callAll hbuilds
  have hregular : merged.registry.Regular merged.ids :=
    regular_callAll (regular_of_equations_eq_nil hempty) hbuilds
  have himage : ∀ assignment : Assignment,
      assignment.Unifies (state.constrainAll (calls.filterMap Call.pair?)).2 →
        type.image assignment = ground := by
    intro assignment hunifies
    exact image_eq_of_normalize_eq_ok hempty hquiet hplain hground hunifies
  have hresult : ∀ {result : Ty} {cost : Nat}, merged.equations.Unfolds type result cost →
      ∀ assignment : Assignment,
        assignment.Unifies (state.constrainAll (calls.filterMap Call.pair?)).2 →
          result.image assignment = ground := by
    intro result cost hunfolds assignment hunifies
    rw [hunfolds.image_eq (solves_callAll_of_unifies hempty hbuilds hunifies), himage _ hunifies]
  obtain ⟨unifier, hunifier⟩ := hunifiable
  have hsolves : unifier.Solves merged.equations := solves_callAll_of_unifies hempty hbuilds hunifier
  refine ⟨?_, ?_, ?_⟩
  · intro limit result hok
    obtain ⟨_, hunfolds⟩ := unfolds_of_normalize_eq_ok hquiet' hok
    refine ⟨hresult hunfolds, fun heq => heq ▸ hground, fun hnone => ?_⟩
    rw [← hresult hunfolds unifier hunifier, Ty.image_of_occurrences_eq_nil hnone]
  · intro hdistinct
    have hacyclic : ∀ type, merged.equations.AcyclicFrom type :=
      hregular.acyclicFrom_of_nodup hdistinct hsolves
    obtain ⟨result, cost, hunfolds⟩ := Equations.exists_unfolds_of_acyclicFrom (hacyclic type)
    have hunifies : merged.equations.unfolding.Unifies
        (state.constrainAll (calls.filterMap Call.pair?)).2 := by
      have hunfolding := unfolding_solves_of_regular hregular hdistinct hacyclic
      rw [← accepted_callAll state state calls hbuilds]
      exact ((solves_callAll state calls).mp hunfolding).2
    have heq : result = ground := by
      rw [hunfolds.eq_image, himage _ hunifies]
    refine ⟨cost, fun limit hle => ?_⟩
    exact heq ▸ normalize_of_natCast_le hquiet' hunfolds hle
  · intro hlast
    have hsettled := settled_callAll_of_getLast? (regular_of_equations_eq_nil hempty) hbuilds hlast
    obtain ⟨result, cost, hunfolds⟩ := Equations.exists_unfolds_of_acyclicFrom
      (hregular.acyclicFrom_of_settled hsettled hsolves type)
    exact ⟨result, cost, fun limit hle => normalize_of_natCast_le hquiet' hunfolds hle⟩

/-- In the first of these runs the merging leaves two equations for `0` and none for `1`, but it comes last. In
the other a constraint comes after the merging, but no variable is defined twice. -/
theorem normalize_callAll_of_ground_of_last_or_distinct :
    let state := start Registry.empty [] 0 none
    let last : List Call := [.constrain (.var 0) (.var 1), .constrain (.var 1) .int, .merge]
    let distinct : List Call :=
      [.constrain (.var 0) (.var 2), .constrain (.var 1) (.var 2), .merge, .constrain (.var 2) .int]
    (∃ (result : Ty) (bound : Nat), ∀ limit : Int, bound ≤ limit →
      ({ (state.callAll last).1 with limit }.normalize (.var 0)).2 = .ok result) ∧
    (state.callAll distinct).1.equations = [⟨0, .var 2⟩, ⟨1, .var 0⟩, ⟨2, .int⟩] ∧
    ∃ bound : Nat, ∀ limit : Int, bound ≤ limit →
      ({ (state.callAll distinct).1 with limit }.normalize (.pair (.var 1) (.var 0))).2 =
        .ok (.pair .int .int) := by
  intro state last distinct
  have hquiet : state.Quiet := nofun
  refine ⟨?_, by decide, ?_⟩
  · have hbuilds : ∀ call ∈ last, call.Builds := by simp [last, Call.Builds]
    have hunifies : Assignment.Unifies (fun _ => .int) [(.var 0, .var 1), (.var 1, .int)] := by
      simp [Assignment.Unifies, Ty.image]
    have hunfolds : (state.constrainAll (last.filterMap Call.pair?)).1.equations.Unfolds (.var 0) .int 2 :=
      .defined rfl (.defined rfl .int)
    have hplain := normalize_of_natCast_le (hquiet.constrainAll _) hunfolds (Int.le_refl _)
    have hlast := normalize_callAll_of_ground state rfl hquiet last hbuilds ⟨_, hunifies⟩ (.var 0) .int rfl
      ⟨_, hplain⟩
    exact hlast.2.2 rfl
  · have hbuilds : ∀ call ∈ distinct, call.Builds := by simp [distinct, Call.Builds]
    have hunifies : Assignment.Unifies (fun _ => .int)
        [(.var 0, .var 2), (.var 1, .var 2), (.var 2, .int)] := by
      simp [Assignment.Unifies, Ty.image]
    have hunfolds : (state.constrainAll (distinct.filterMap Call.pair?)).1.equations.Unfolds
        (.pair (.var 1) (.var 0)) (.pair .int .int) (2 + 2) :=
      .pair (.defined rfl (.defined rfl .int)) (.defined rfl (.defined rfl .int))
    have hplain := normalize_of_natCast_le (hquiet.constrainAll _) hunfolds (Int.le_refl _)
    have hdistinct := normalize_callAll_of_ground state rfl hquiet distinct hbuilds ⟨_, hunifies⟩
      (.pair (.var 1) (.var 0)) (.pair .int .int) rfl ⟨_, hplain⟩
    exact hdistinct.2.1 (by decide)

/-- **Merging can make solving worse.** A merging at the end leaves `0` with an equation that leads nowhere, where
it was normalized to `Int`. And constraints added after a merging can close a cycle that exceeds every limit. -/
theorem normalize_merge_ne :
    let state := start Registry.empty [] 0 none
    let shadowing : List Call := [.constrain (.var 0) (.var 1), .constrain (.var 1) .int, .merge]
    let closing : List Call :=
      [.constrain (.var 0) (.var 1), .constrain (.var 1) (.var 3), .constrain (.var 2) (.var 3), .merge,
        .constrain (.var 1) (.var 2), .constrain (.var 3) .int]
    (∀ calls ∈ [shadowing, closing],
      Assignment.Unifies (fun _ => .int) (state.constrainAll (calls.filterMap Call.pair?)).2 ∧
      ∃ limit : Int,
        ({ (state.constrainAll (calls.filterMap Call.pair?)).1 with limit }.normalize (.var 0)).2 =
          .ok .int) ∧
    (∀ limit : Int, ({ (state.callAll shadowing).1 with limit }.normalize (.var 0)).2 ≠ .ok .int) ∧
    ∀ limit : Int, ∃ last,
      ({ (state.callAll closing).1 with limit }.normalize (.var 0)).2 =
        .error (.limitExceeded limit last) := by
  intro state shadowing closing
  have hquiet : state.Quiet := nofun
  refine ⟨?_, ?_, ?_⟩
  · rw [List.forall_mem_cons, List.forall_mem_singleton]
    constructor
    · have hunifies : Assignment.Unifies (fun _ => .int) [(.var 0, .var 1), (.var 1, .int)] := by
        simp [Assignment.Unifies, Ty.image]
      have hunfolds :
          (state.constrainAll (shadowing.filterMap Call.pair?)).1.equations.Unfolds (.var 0) .int 2 :=
        .defined rfl (.defined rfl .int)
      exact ⟨hunifies, _, normalize_of_natCast_le (hquiet.constrainAll _) hunfolds (Int.le_refl _)⟩
    · have hunifies : Assignment.Unifies (fun _ => .int)
          [(.var 0, .var 1), (.var 1, .var 3), (.var 2, .var 3), (.var 1, .var 2), (.var 3, .int)] := by
        simp [Assignment.Unifies, Ty.image]
      have hunfolds :
          (state.constrainAll (closing.filterMap Call.pair?)).1.equations.Unfolds (.var 0) .int 3 :=
        .defined rfl (.defined rfl (.defined rfl .int))
      exact ⟨hunifies, _, normalize_of_natCast_le (hquiet.constrainAll _) hunfolds (Int.le_refl _)⟩
  · intro limit hok
    have hbuilds : ∀ call ∈ shadowing, call.Builds := by simp [shadowing, Call.Builds]
    have hquiet' : (state.callAll shadowing).1.Quiet := hquiet.callAll hbuilds
    have hequations : (state.callAll shadowing).1.equations = [⟨0, .var 1⟩, ⟨0, .int⟩] := by decide
    obtain ⟨_, hunfolds⟩ := unfolds_of_normalize_eq_ok hquiet' hok
    rw [hequations] at hunfolds
    have hstuck : Equations.Unfolds [⟨0, .var 1⟩, ⟨0, .int⟩] (.var 0) (.var 1) 1 :=
      .defined rfl (.free rfl)
    cases (hunfolds.unique hstuck).1
  · intro limit
    have hbuilds : ∀ call ∈ closing, call.Builds := by simp [closing, Call.Builds]
    have hquiet' : { (state.callAll closing).1 with limit }.Quiet := hquiet.callAll hbuilds
    have hequations : (state.callAll closing).1.equations =
        [⟨0, .var 1⟩, ⟨0, .var 3⟩, ⟨2, .var 0⟩, ⟨1, .var 2⟩, ⟨3, .int⟩] := by decide
    have hcyclic : ¬ (state.callAll closing).1.equations.AcyclicFrom (.var 0) := by
      rw [hequations]
      intro hacyclic
      refine hacyclic 0 ⟨0, List.mem_singleton_self 0, .refl⟩ ?_
      exact .tail (.tail (.single ⟨⟨0, .var 1⟩, rfl, List.mem_singleton_self 1⟩)
        ⟨⟨1, .var 2⟩, rfl, List.mem_singleton_self 2⟩) ⟨⟨2, .var 0⟩, rfl, List.mem_singleton_self 0⟩
    obtain ⟨_, _, _, herror⟩ := normalize_of_not_acyclicFrom hquiet' hcyclic
    exact ⟨_, herror⟩

end Elimination

end TypeEquations
