import TypeEquations.Proofs.Relabeling
import TypeEquations.Proofs.Unfolding

/-!
# Merging

Merging goes through the equations in order and renames the greater variable of each equation between two
different variables to the smaller one in all others. From then on the greater variable stands in that
equation alone. What merging keeps is that equations between variables lead upwards: from the variable on the
right, the equations in front of it lead to a variable greater than the one on the left.
-/

namespace TypeEquations

/-- A path that does not end where it began has a last step from another place. -/
theorem exists_last_step {α : Type} {r : α → α → Prop} {a b : α} (h : Relation.ReflTransGen r a b) :
    a = b ∨ ∃ c, c ≠ b ∧ Relation.ReflTransGen r a c ∧ r c b := by
  induction h with
  | refl => exact .inl rfl
  | @tail b c hab hbc ih =>
    by_cases heq : b = c
    · exact heq ▸ ih
    · exact .inr ⟨b, heq, hab, hbc⟩

namespace Registry

variable {registry registry' : Registry} {ids : List EquationId} {id other bound : EquationId}
  {source target : Nat}

def Linked (registry : Registry) (ids : List EquationId) (bound : EquationId) (x y : Nat) : Prop :=
  ∃ id ∈ ids, id < bound ∧ registry.get? id = some ⟨x, .var y⟩

/-- From the right side of an equation between variables, the equations listed below it lead to a variable that
is greater than its left side. -/
def Ascends (registry : Registry) (ids : List EquationId) : Prop :=
  ∀ id ∈ ids, ∀ x y : Nat, registry.get? id = some ⟨x, .var y⟩ →
    ∃ z, x < z ∧ Relation.ReflTransGen (registry.Linked ids id) y z

def Settled (registry : Registry) (ids : List EquationId) (id : EquationId) : Prop :=
  ∀ x y : Nat, registry.get? id = some ⟨x, .var y⟩ → x ≠ y →
    ∀ other ∈ ids, other ≠ id → ∀ equation, registry.get? other = some equation →
      ¬ equation.Mentions (max x y)

theorem Linked.mono {bound' : EquationId} (hle : bound ≤ bound') {x y : Nat}
    (h : registry.Linked ids bound x y) : registry.Linked ids bound' x y := by
  obtain ⟨id, hid, hlt, hget⟩ := h
  exact ⟨id, hid, Nat.lt_of_lt_of_le hlt hle, hget⟩

theorem reflTransGen_linked_mono {bound' : EquationId} (hle : bound ≤ bound') {x y : Nat}
    (h : Relation.ReflTransGen (registry.Linked ids bound) x y) :
    Relation.ReflTransGen (registry.Linked ids bound') x y :=
  Relation.ReflTransGen.mono (fun _ _ hlink => Linked.mono hle hlink) _ _ h

/-! ### One renaming -/

structure Relabels (registry registry' : Registry) (ids : List EquationId) (id : EquationId)
    (source target : Nat) : Prop where
  kept : registry'.get? id = registry.get? id
  others : ∀ other ∈ ids, other ≠ id →
    registry'.get? other = (registry.get? other).map (·.relabel source target)
  link : ∃ x y : Nat, registry.get? id = some ⟨x, .var y⟩ ∧ x ≠ y ∧ max x y = source ∧ min x y = target

theorem Relabels.lt (h : registry.Relabels registry' ids id source target) : target < source := by
  obtain ⟨x, y, _, hne, rfl, rfl⟩ := h.link
  omega

theorem Relabels.mentions (h : registry.Relabels registry' ids id source target) :
    ∃ equation, registry.get? id = some equation ∧ equation.Mentions source ∧ equation.Mentions target := by
  obtain ⟨x, y, hget, _, rfl, rfl⟩ := h.link
  refine ⟨_, hget, ?_, ?_⟩ <;> rcases Nat.le_total x y with hle | hle <;>
    simp [Equation.Mentions, Ty.occurrences, hle]

/-- The link of the equation itself shrinks to one variable, all others go over. -/
theorem Relabels.linked (h : registry.Relabels registry' ids id source target) {x y : Nat}
    (hlink : registry.Linked ids bound x y) :
    Relation.ReflTransGen (registry'.Linked ids bound) (relabelId source target x)
      (relabelId source target y) := by
  obtain ⟨other, hother, hlt, hget⟩ := hlink
  by_cases heq : other = id
  · subst heq
    obtain ⟨x', y', hget', _, rfl, rfl⟩ := h.link
    rw [hget] at hget'
    cases hget'
    have hends : relabelId (max x y) (min x y) x = relabelId (max x y) (min x y) y := by
      unfold relabelId
      grind
    rw [hends]
  · refine .single ⟨other, hother, hlt, ?_⟩
    rw [h.others other hother heq, hget]
    exact congrArg some (Equation.relabel_eq_link_iff.mpr ⟨x, y, rfl, rfl, rfl⟩)

/-- A path is a path again under the new names. -/
theorem Relabels.reflTransGen_linked (h : registry.Relabels registry' ids id source target) {x y : Nat}
    (hpath : Relation.ReflTransGen (registry.Linked ids bound) x y) :
    Relation.ReflTransGen (registry'.Linked ids bound) (relabelId source target x)
      (relabelId source target y) :=
  hpath.lift' _ fun _ _ hlink => h.linked hlink

/-- What is in a relabelled registry comes from what was there. -/
theorem Relabels.exists_of_get? (h : registry.Relabels registry' ids id source target)
    (hother : other ∈ ids) (hne : other ≠ id) {x y : Nat}
    (hget : registry'.get? other = some ⟨x, .var y⟩) :
    ∃ a b : Nat, registry.get? other = some ⟨a, .var b⟩ ∧ relabelId source target a = x ∧
      relabelId source target b = y := by
  rw [h.others other hother hne] at hget
  obtain ⟨equation, hold, hequation⟩ := Option.map_eq_some_iff.mp hget
  obtain ⟨a, b, rfl, ha, hb⟩ := Equation.relabel_eq_link_iff.mp hequation
  exact ⟨a, b, hold, ha, hb⟩

/-- The equations in front of the one at work have been settled, so none of them is upwards of it: a path from
one of them that ends in the greater variable would have to take its last step by that equation itself. -/
theorem le_of_reaches_source (hsettled : ∀ other ∈ ids, other < id → registry.Settled ids other)
    (hid : id ∈ ids) {equation : Equation} (hget : registry.get? id = some equation)
    (hmentions : equation.Mentions source) (hother : other ∈ ids) {a b : Nat}
    (hlink : registry.get? other = some ⟨a, .var b⟩) (hlt : a < source)
    (hpath : Relation.ReflTransGen (registry.Linked ids other) b source) : id ≤ other := by
  by_contra hnot
  have hbefore : other < id := Nat.not_le.mp hnot
  rcases exists_last_step hpath with rfl | ⟨w, hw, hpath, j, hj, hjlt, hjlink⟩
  · have habsent := hsettled other hother hbefore a b hlink (Nat.ne_of_lt hlt) id hid
      (Nat.ne_of_gt hbefore) equation hget
    rw [Nat.max_eq_right (Nat.le_of_lt hlt)] at habsent
    exact habsent hmentions
  · have hjid : j < id := Nat.lt_trans hjlt hbefore
    have habsent := hsettled j hj hjid w source hjlink hw
    rcases Nat.lt_or_gt_of_ne hw with hless | hgreater
    · rw [Nat.max_eq_right (Nat.le_of_lt hless)] at habsent
      exact habsent id hid (Nat.ne_of_gt hjid) equation hget hmentions
    · -- `w` stands in that last equation alone, so the path cannot have come to it
      rw [Nat.max_eq_left (Nat.le_of_lt hgreater)] at habsent
      rcases exists_last_step hpath with rfl | ⟨u, hu, _, k, hk, _, hklink⟩
      · exact habsent other hother (Nat.ne_of_gt hjlt) _ hlink (.inr (List.mem_singleton_self b))
      · by_cases heq : k = j
        · subst heq
          rw [hjlink] at hklink
          cases hklink
          exact hw rfl
        · exact habsent k hk heq _ hklink (.inr (List.mem_singleton_self w))

/-- Links go on to lead upwards, because the equations before are settled. -/
theorem Relabels.ascends (h : registry.Relabels registry' ids id source target) (hid : id ∈ ids)
    (hsettled : ∀ other ∈ ids, other < id → registry.Settled ids other)
    (hascends : registry.Ascends ids) : registry'.Ascends ids := by
  obtain ⟨equation, hget, hmentions, _⟩ := h.mentions
  have hlt := h.lt
  -- from the smaller variable it goes on to the greater one at least
  have hup : ∃ z, source ≤ z ∧
      ∀ bound, id < bound → Relation.ReflTransGen (registry'.Linked ids bound) target z := by
    obtain ⟨x, y, hlink, hne, rfl, rfl⟩ := h.link
    rcases Nat.lt_or_gt_of_ne hne with hless | hgreater
    · refine ⟨y, by omega, fun bound hbound => .single ⟨id, hid, hbound, ?_⟩⟩
      rw [Nat.min_eq_left (Nat.le_of_lt hless), h.kept, hlink]
    · obtain ⟨z, hz, hpath⟩ := hascends id hid x y hlink
      have hpath' := h.reflTransGen_linked hpath
      rw [relabelId_of_ne (by omega), relabelId_of_ne (by omega)] at hpath'
      refine ⟨z, by omega, fun bound hbound => ?_⟩
      rw [Nat.min_eq_right (Nat.le_of_lt hgreater)]
      exact reflTransGen_linked_mono (Nat.le_of_lt hbound) hpath'
  intro other hother x y hlink
  by_cases heq : other = id
  · subst heq
    obtain ⟨x', y', hlink', hne, rfl, rfl⟩ := h.link
    rw [h.kept, hlink'] at hlink
    cases hlink
    rcases Nat.lt_or_gt_of_ne hne with hless | hgreater
    · exact ⟨y, hless, .refl⟩
    · obtain ⟨z, hz, hpath⟩ := hascends other hother x y hlink'
      have hpath' := h.reflTransGen_linked hpath
      rw [relabelId_of_ne (by omega), relabelId_of_ne (by omega)] at hpath'
      exact ⟨z, hz, hpath'⟩
  · obtain ⟨a, b, hold, rfl, rfl⟩ := h.exists_of_get? hother heq hlink
    obtain ⟨z, hz, hpath⟩ := hascends other hother a b hold
    have hle : relabelId source target a ≤ a := relabelId_le (Nat.le_of_lt hlt)
    have hpath' := h.reflTransGen_linked hpath
    by_cases hsource : z = source
    · subst hsource
      have hid' := le_of_reaches_source hsettled hid hget hmentions hother hold hz hpath
      obtain ⟨z', hz', hup⟩ := hup
      rw [relabelId_source] at hpath'
      exact ⟨z', by omega, hpath'.trans (hup other (Nat.lt_of_le_of_ne hid' (Ne.symm heq)))⟩
    · rw [relabelId_of_ne hsource] at hpath'
      exact ⟨z, by omega, hpath'⟩

/-- A settled equation does not share its greater variable with the one at work, so it stays settled. -/
theorem Relabels.settled (h : registry.Relabels registry' ids id source target) (hid : id ∈ ids)
    (hother : other ∈ ids) (hsettled : other ≠ id → registry.Settled ids other) :
    registry'.Settled ids other := by
  obtain ⟨equation, hget, hmentions, hmentions'⟩ := h.mentions
  have hlt := h.lt
  intro x y hlink hne j hj hjne equation' hequation'
  by_cases heq : other = id
  · subst heq
    obtain ⟨x', y', hlink', _, rfl, rfl⟩ := h.link
    rw [h.kept, hlink'] at hlink
    cases hlink
    rw [h.others j hj hjne] at hequation'
    obtain ⟨old, _, rfl⟩ := Option.map_eq_some_iff.mp hequation'
    rw [Equation.mentions_relabel]
    rintro (⟨heq, _⟩ | ⟨hne, _⟩)
    · omega
    · exact hne rfl
  · obtain ⟨a, b, hold, rfl, rfl⟩ := h.exists_of_get? hother heq hlink
    have hab : a ≠ b := fun hab => hne (congrArg _ hab)
    have habsent := hsettled heq a b hold hab
    have hfresh := habsent id hid (Ne.symm heq) equation hget
    have hsource : max a b ≠ source := fun heq => hfresh (heq ▸ hmentions)
    have htarget : max a b ≠ target := fun heq => hfresh (heq ▸ hmentions')
    have hmax : max (relabelId source target a) (relabelId source target b) = max a b := by
      unfold relabelId
      grind
    rw [hmax]
    by_cases hjid : j = id
    · subst hjid
      rw [h.kept] at hequation'
      exact habsent j hj hjne equation' hequation'
    · rw [h.others j hj hjid] at hequation'
      obtain ⟨old, hold', rfl⟩ := Option.map_eq_some_iff.mp hequation'
      rw [Equation.mentions_relabel]
      rintro (⟨heq, _⟩ | ⟨_, hold⟩)
      · exact htarget heq
      · exact habsent j hj hjne old hold' hold

/-! ### The whole pass -/

/-- Ascending numbers of equations that define natural variables and, where between variables, lead upwards. -/
structure Regular (registry : Registry) (ids : List EquationId) : Prop where
  sorted : ids.Pairwise (· < ·)
  natural : ∀ id ∈ ids, ∀ equation, registry.get? id = some equation → ∃ x : Nat, equation.var = x
  ascends : registry.Ascends ids

theorem Relabels.regular (h : registry.Relabels registry' ids id source target) (hid : id ∈ ids)
    (hsettled : ∀ other ∈ ids, other < id → registry.Settled ids other)
    (hregular : registry.Regular ids) : registry'.Regular ids where
  sorted := hregular.sorted
  natural other hother equation hget := by
    by_cases heq : other = id
    · subst heq
      exact hregular.natural other hother equation (h.kept ▸ hget)
    · rw [h.others other hother heq] at hget
      obtain ⟨old, hold, rfl⟩ := Option.map_eq_some_iff.mp hget
      obtain ⟨x, hx⟩ := hregular.natural other hother old hold
      rw [Equation.relabel]
      split
      · exact ⟨target, rfl⟩
      · exact ⟨x, hx⟩
  ascends := h.ascends hid hsettled hregular.ascends

/-- Renaming all others by the variables of an equation cannot fail where variables are natural. -/
theorem Regular.relabels (hregular : registry.Regular ids) (hid : id ∈ ids) {equation : Equation}
    (hget : registry.get? id = some equation) {greater smaller : Int}
    (hmerged : mergedVariables? equation = some (greater, smaller)) :
    ∃ registry' source target,
      registry.renameAll greater smaller (ids.filter (· ≠ id)) = (registry', .ok ()) ∧
        registry.Relabels registry' ids id source target := by
  obtain ⟨y, hrhs, hne, rfl, rfl⟩ := mergedVariables?_eq_some_iff.mp hmerged
  obtain ⟨x, hx⟩ := hregular.natural id hid equation hget
  obtain ⟨var, rhs⟩ := equation
  obtain rfl : var = x := hx
  obtain rfl : rhs = .var y := hrhs
  have hnodup : (ids.filter (· ≠ id)).Nodup :=
    (hregular.sorted.imp Nat.ne_of_lt).filter _
  obtain ⟨hok, hrelabelled⟩ := renameAll_natCast hnodup registry (max x y) (min x y)
  have hmax : ((max x y : Nat) : Int) = max (x : Int) y := by omega
  have hmin : ((min x y : Nat) : Int) = min (x : Int) y := by omega
  rw [hmax, hmin] at hok hrelabelled
  refine ⟨_, max x y, min x y, Prod.ext rfl hok, ?_, ?_, x, y, hget, ?_, rfl, rfl⟩
  · exact (hrelabelled id).trans (if_neg (by simp))
  · intro other hother hne
    exact (hrelabelled other).trans (if_pos (by simp [hother, hne]))
  · exact fun heq => hne (congrArg _ heq)

/-- An equation that does not call for a renaming has no two variables to settle. -/
theorem settled_of_not_merged (hnone : (registry.get? id).bind mergedVariables? = none) :
    registry.Settled ids id := by
  intro x y hget hne
  rw [hget, Option.bind_some] at hnone
  have hsome : mergedVariables? ⟨x, .var y⟩ = some (max (x : Int) y, min (x : Int) y) :=
    mergedVariables?_eq_some_iff.mpr ⟨y, rfl, fun heq => hne (Int.ofNat_inj.mp heq), rfl, rfl⟩
  rw [hsome] at hnone
  cases hnone

/-- Induction on the equations still to come; those in front of them are settled and stay so. -/
theorem Regular.mergeFrom {done rest : List EquationId} (hids : ids = done ++ rest)
    (hregular : registry.Regular ids) (hsettled : ∀ id ∈ done, registry.Settled ids id) :
    ∃ renamings, (registry.mergeFrom ids rest).2 = .ok renamings ∧
      (registry.mergeFrom ids rest).1.Regular ids ∧
      ∀ id ∈ ids, (registry.mergeFrom ids rest).1.Settled ids id := by
  induction rest generalizing registry done with
  | nil =>
    rw [List.append_nil] at hids
    exact ⟨[], rfl, hregular, hids ▸ hsettled⟩
  | cons id rest ih =>
    have hids' : ids = (done ++ [id]) ++ rest := by rw [hids, List.append_assoc]; rfl
    have hid : id ∈ ids := by simp [hids]
    rw [Registry.mergeFrom]
    split
    · rename_i hnone
      refine ih hids' hregular ?_
      rw [List.forall_mem_append, List.forall_mem_singleton]
      exact ⟨hsettled, settled_of_not_merged hnone⟩
    · rename_i greater smaller hbind
      obtain ⟨equation, hget, hmerged⟩ := Option.bind_eq_some_iff.mp hbind
      obtain ⟨registry', source, target, hrenamed, hrelabels⟩ := hregular.relabels hid hget hmerged
      have hbefore : ∀ other ∈ ids, other < id → registry.Settled ids other := by
        intro other hother hlt
        refine hsettled other ?_
        have hsorted := hregular.sorted
        rw [hids] at hother hsorted
        rcases List.mem_append.mp hother with hdone | hrest
        · exact hdone
        · -- what comes later has a greater number
          have hge : id ≤ other := by
            rcases List.mem_cons.mp hrest with rfl | hrest
            · exact Nat.le_refl _
            · exact Nat.le_of_lt
                (List.rel_of_pairwise_cons (List.pairwise_append.mp hsorted).2.1 hrest)
          exact absurd hlt (Nat.not_lt.mpr hge)
      have hdone : ∀ other ∈ done ++ [id], registry'.Settled ids other := by
        intro other hother
        refine hrelabels.settled hid (hids' ▸ List.mem_append_left _ hother) fun hne => ?_
        exact hsettled other (by simpa [hne] using hother)
      obtain ⟨renamings, hok, hregular', hsettled'⟩ :=
        ih hids' (hrelabels.regular hid hbefore hregular) hdone
      simp only [hrenamed, hok]
      exact ⟨_, rfl, hregular', hsettled'⟩

/-- Merging does not fail, and settles all equations. -/
theorem Regular.merge (hregular : registry.Regular ids) :
    ∃ renamings, (registry.merge ids).2 = .ok renamings ∧ (registry.merge ids).1.Regular ids ∧
      ∀ id ∈ ids, (registry.merge ids).1.Settled ids id :=
  Regular.mergeFrom (List.nil_append ids).symm hregular nofun

end Registry

end TypeEquations
