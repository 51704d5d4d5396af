import TypeEquations.Sheet
import TypeEquations.Proofs.Constraints
import TypeEquations.Proofs.Position
import TypeEquations.Proofs.Renaming

/-!
# Rewriting

A sheet of equations rewritten by its own equations. An equation may even be used on its own right side, and
then the one that was used is gone; but types are finite, so that such an equation has no solution before the
rewriting and none afterwards. In all other cases the equation that is used remains.
-/

namespace TypeEquations

variable {assignment : Assignment}

/-- A right side in the place of a variable that it defines: the equation says as little, or as much, as before. -/
theorem Equation.holds_replace_self (assignment : Assignment) {equation : Equation} {position : Position} {x : Nat}
    (hpart : equation.rhs.part? position = some (.var x)) (hvar : equation.var = x) :
    Holds ⟨equation.var, equation.rhs.replace position equation.rhs⟩ assignment ↔
      equation.Holds assignment := by
  obtain ⟨var, rhs⟩ := equation
  obtain rfl : var = x := hvar
  cases position with
  | nil => rw [Ty.replace]
  | cons side rest =>
    have hnotVar : ∀ y, rhs ≠ .var y := by
      rintro y rfl
      simp [Ty.part?] at hpart
    have hlt : sizeOf (assignment x) < sizeOf (rhs.image assignment) :=
      Ty.sizeOf_lt_sizeOf_image assignment (Ty.mem_occurrences_of_part? hpart) hnotVar
    have hle : sizeOf (rhs.image assignment) ≤
        sizeOf ((rhs.replace (side :: rest) rhs).image assignment) :=
      Ty.sizeOf_image_le_replace hpart
    -- what is assigned to `x` would be larger than itself
    constructor
    · intro hholds
      have hsize : sizeOf (assignment x) =
          sizeOf ((rhs.replace (side :: rest) rhs).image assignment) := congrArg sizeOf hholds
      omega
    · intro hholds
      have hsize : sizeOf (assignment x) = sizeOf (rhs.image assignment) := congrArg sizeOf hholds
      omega

namespace Registry

variable {registry : Registry} {ids : List EquationId} {id : EquationId} {equation : Equation}

theorem substitute_of_get? (hget : registry.get? id = some equation) :
    registry.substitute ids id =
      (registry.set id ⟨equation.var, (equation.rhs.substitute (registry.select ids)).type⟩,
        some (equation.rhs.substitute (registry.select ids))) := by
  rw [substitute, hget]

/-- Substituting in an entry keeps the solutions, even where the entry is substituted by itself. -/
theorem solves_substitute (registry : Registry) (ids : List EquationId) (id : EquationId) :
    assignment.Solves ((registry.substitute ids id).1.select ids) ↔
      assignment.Solves (registry.select ids) := by
  cases hget : registry.get? id with
  | none => rw [substitute, hget]
  | some equation =>
    rw [substitute_of_get? hget]
    cases hfired : (equation.rhs.substitute (registry.select ids)).fired with
    | none =>
      rw [Ty.type_substitute_of_fired_eq_none hfired, solves_select, solves_select]
      simp only [holdsAt_set hget Iff.rfl]
    | some used =>
      obtain ⟨position, x, hpart, hfound, htype⟩ := Ty.exists_replace_of_fired hfired
      obtain ⟨id', hid', hget'⟩ := mem_select.mp (Equations.mem_of_lookup? hfound)
      -- a use on itself takes the equation away, any other use keeps it
      by_cases hself : id' = id
      · subst hself
        obtain rfl : equation = used := Option.some.inj (hget.symm.trans hget')
        have hsame := Equation.holds_replace_self assignment hpart
          (Equations.var_of_lookup? hfound)
        rw [htype, solves_select, solves_select]
        simp only [holdsAt_set hget hsame]
      · refine solves_select_of_kept hid' hget' (get?_set_of_ne hself ..) ?_
        intro hholds other
        apply holdsAt_set hget
        rw [Equation.Holds, Equation.Holds, Ty.image_substitute hfired hholds]

end Registry

namespace Sheet

variable {sheet sheet' : Sheet} {id : EquationId} {equation : Equation} {left right index : Int}

def Complete (sheet : Sheet) : Prop :=
  ∀ id ∈ sheet.ids, id < sheet.registry.entries.size

instance (sheet : Sheet) : Decidable sheet.Complete :=
  inferInstanceAs (Decidable (∀ id ∈ sheet.ids, id < sheet.registry.entries.size))

def SameVar (sheet : Sheet) (left right : Int) : Prop :=
  ∃ id id' equation equation', sheet.entryAt left = .ok (id, equation) ∧
    sheet.entryAt right = .ok (id', equation') ∧ equation.var = equation'.var

inductive Admits (sheet : Sheet) : Action → Prop where
  | substitute (index : Int) : Admits sheet (.substitute index)
  | equate {left right : Int} (hsame : sheet.SameVar left right) : Admits sheet (.equate left right)

/-- What actions in a row, all admitted when their turn comes, make of a sheet. -/
def Rewrites : Sheet → Sheet → Prop :=
  Relation.ReflTransGen fun sheet sheet' => ∃ action, sheet.Admits action ∧ (sheet.perform action).1 = sheet'

/-- In one equation one variable gives way to the right side of its first equation, or nothing happens. -/
structure ReplacesLeaf (sheet sheet' : Sheet) (id : EquationId) (equation : Equation) : Prop where
  ids : sheet'.ids = sheet.ids
  others : ∀ other, other ≠ id → sheet'.registry.get? other = sheet.registry.get? other
  leaf : ∃ rhs, sheet'.registry.get? id = some ⟨equation.var, rhs⟩ ∧
    (rhs = equation.rhs ∨ ∃ (position : Position) (x : Nat) (used : Equation),
      equation.rhs.part? position = some (.var x) ∧ Equations.lookup? sheet.equations x = some used ∧
      rhs = equation.rhs.replace position used.rhs)

theorem entryAt_eq_ok_iff : sheet.entryAt index = .ok (id, equation) ↔
    (sheet.place? index).bind (sheet.ids[·]?) = some id ∧ sheet.registry.get? id = some equation := by
  rw [entryAt]
  split
  · rename_i id' hplace
    split <;> rename_i hget
    · simp only [hplace, Except.ok.injEq, Prod.mk.injEq, Option.some.injEq]
      constructor
      · rintro ⟨rfl, rfl⟩
        exact ⟨rfl, hget⟩
      · rintro ⟨rfl, hget'⟩
        exact ⟨rfl, Option.some.inj (hget.symm.trans hget')⟩
    · simp only [hplace, reduceCtorEq, Option.some.injEq, false_iff, not_and]
      rintro rfl
      simp [hget]
  · rename_i hplace
    simp [hplace]

theorem mem_equations_of_entryAt (hentry : sheet.entryAt index = .ok (id, equation)) :
    equation ∈ sheet.equations := by
  obtain ⟨hplace, hget⟩ := entryAt_eq_ok_iff.mp hentry
  obtain ⟨place, _, hid⟩ := Option.bind_eq_some_iff.mp hplace
  exact Registry.mem_select.mpr ⟨id, List.mem_of_getElem? hid, hget⟩

theorem perform_substitute_of_ok (hentry : sheet.entryAt index = .ok (id, equation)) :
    sheet.perform (.substitute index) =
      ({ sheet with registry := (sheet.registry.substitute sheet.ids id).1 },
        .ok (.substituted (equation.rhs.substitute sheet.equations))) := by
  obtain ⟨_, hget⟩ := entryAt_eq_ok_iff.mp hentry
  simp only [perform, hentry, Registry.substitute_of_get? hget]
  rfl

theorem perform_substitute_of_error {failure : Failure} (hentry : sheet.entryAt index = .error failure) :
    sheet.perform (.substitute index) = (sheet, .error failure) := by
  simp only [perform, hentry]

theorem replacesLeaf_perform_substitute (hentry : sheet.entryAt index = .ok (id, equation)) :
    sheet.ReplacesLeaf (sheet.perform (.substitute index)).1 id equation := by
  obtain ⟨_, hget⟩ := entryAt_eq_ok_iff.mp hentry
  rw [perform_substitute_of_ok hentry, Registry.substitute_of_get? hget]
  refine ⟨rfl, fun other hne => Registry.get?_set_of_ne hne .., _, Registry.get?_set_self hget _, ?_⟩
  cases hfired : (equation.rhs.substitute (sheet.registry.select sheet.ids)).fired with
  | none => exact .inl (Ty.type_substitute_of_fired_eq_none hfired)
  | some used =>
    obtain ⟨position, x, hpart, hfound, htype⟩ := Ty.exists_replace_of_fired hfired
    exact .inr ⟨position, x, used, hpart, hfound, htype⟩

theorem perform_equate {id' : EquationId} {equation' : Equation}
    (hleft : sheet.entryAt left = .ok (id, equation)) (hright : sheet.entryAt right = .ok (id', equation')) :
    sheet.perform (.equate left right) =
      match equation.rhs.equate equation'.rhs with
      | .ok equations => (sheet.appendAll equations, .ok (.equations equations))
      | .error mismatch => (sheet, .error (.mismatch mismatch)) := by
  simp only [perform, hleft, hright, bind, Except.bind]
  cases equation.rhs.equate equation'.rhs <;> rfl

/-- The right sides of two equations for one variable are equal in every solution. -/
theorem SameVar.image_eq (hsame : sheet.SameVar left right) :
    ∃ id id' equation equation', sheet.entryAt left = .ok (id, equation) ∧
      sheet.entryAt right = .ok (id', equation') ∧
      ∀ assignment : Assignment, assignment.Solves sheet.equations →
        assignment.SolvesResult (equation.rhs.equate equation'.rhs) := by
  obtain ⟨id, id', equation, equation', hleft, hright, hvar⟩ := hsame
  refine ⟨id, id', equation, equation', hleft, hright, fun assignment hsolves => ?_⟩
  have hequation : assignment equation.var = equation.rhs.image assignment :=
    hsolves equation (mem_equations_of_entryAt hleft)
  have hequation' : assignment equation'.var = equation'.rhs.image assignment :=
    hsolves equation' (mem_equations_of_entryAt hright)
  rw [Assignment.solvesResult_equate, ← hequation, ← hequation', hvar]

theorem equations_appendAll (hcomplete : sheet.Complete) (equations : List Equation) :
    (sheet.appendAll equations).equations = sheet.equations ++ equations := by
  have hold := Registry.select_addAll_of_lt equations hcomplete
  have hnew := sheet.registry.select_addAll equations
  simp only [Sheet.equations, appendAll, Registry.select_append, hold, hnew]

theorem complete_appendAll (hcomplete : sheet.Complete) (equations : List Equation) :
    (sheet.appendAll equations).Complete := by
  intro id hid
  rcases List.mem_append.mp hid with hold | hnew
  · exact Registry.lt_size_addAll equations (hcomplete id hold)
  · exact (Registry.mem_addAll.mp hnew).2

theorem complete_perform {action : Action} (hcomplete : sheet.Complete) (hadmits : sheet.Admits action) :
    (sheet.perform action).1.Complete := by
  cases hadmits with
  | substitute index =>
    cases hentry : sheet.entryAt index with
    | error failure => rwa [perform_substitute_of_error hentry]
    | ok entry =>
      rw [perform_substitute_of_ok hentry, Registry.substitute_of_get? (entryAt_eq_ok_iff.mp hentry).2]
      intro id hid
      rw [Registry.size_set]
      exact hcomplete id hid
  | equate hsame =>
    obtain ⟨_, _, _, _, hleft, hright, _⟩ := hsame
    rw [perform_equate hleft hright]
    split
    · exact complete_appendAll hcomplete _
    · exact hcomplete

/-- An admitted action keeps the solutions. -/
theorem solves_perform {action : Action} (hcomplete : sheet.Complete) (hadmits : sheet.Admits action) :
    assignment.Solves (sheet.perform action).1.equations ↔ assignment.Solves sheet.equations := by
  cases hadmits with
  | substitute index =>
    cases hentry : sheet.entryAt index with
    | error failure => rw [perform_substitute_of_error hentry]
    | ok entry =>
      rw [perform_substitute_of_ok hentry]
      exact Registry.solves_substitute ..
  | equate hsame =>
    obtain ⟨_, _, equation, equation', hleft, hright, hresult⟩ := hsame.image_eq
    rw [perform_equate hleft hright]
    split
    · rename_i equations hequate
      rw [equations_appendAll hcomplete, Assignment.solves_append, and_iff_left_iff_imp]
      intro hsolves
      simpa [hequate] using hresult assignment hsolves
    · rfl

/-- A mismatch between equations for one variable changes nothing, and shows that nothing solves them. -/
theorem not_solves_of_mismatch {failure : Failure} (hsame : sheet.SameVar left right)
    (herror : (sheet.perform (.equate left right)).2 = .error failure) :
    (sheet.perform (.equate left right)).1 = sheet ∧
      ∀ assignment : Assignment, ¬ assignment.Solves sheet.equations := by
  obtain ⟨_, _, equation, equation', hleft, hright, hresult⟩ := hsame.image_eq
  rw [perform_equate hleft hright] at herror ⊢
  cases hequate : equation.rhs.equate equation'.rhs with
  | ok equations => simp [hequate] at herror
  | error mismatch =>
    refine ⟨rfl, fun assignment hsolves => ?_⟩
    simpa [hequate] using hresult assignment hsolves

theorem Rewrites.complete (hcomplete : sheet.Complete) (hrewrites : sheet.Rewrites sheet') :
    sheet'.Complete := by
  induction hrewrites with
  | refl => exact hcomplete
  | tail _ hstep ih =>
    obtain ⟨action, hadmits, rfl⟩ := hstep
    exact complete_perform ih hadmits

theorem Rewrites.solves_iff (hcomplete : sheet.Complete) (hrewrites : sheet.Rewrites sheet') :
    assignment.Solves sheet'.equations ↔ assignment.Solves sheet.equations := by
  induction hrewrites with
  | refl => rfl
  | tail hbefore hstep ih =>
    obtain ⟨action, hadmits, rfl⟩ := hstep
    exact (solves_perform (Rewrites.complete hcomplete hbefore) hadmits).trans ih

/-- **Rewriting keeps the solutions.** However a sheet was rewritten by its own equations, it has the solutions
that it had at first. A substitution changes one variable on one right side, if anything; and where two right
sides for one variable cannot be equated, nothing changes and there is no solution. -/
theorem rewrites_solves_iff (hcomplete : sheet.Complete) (hrewrites : sheet.Rewrites sheet') :
    (∀ assignment : Assignment,
      assignment.Solves sheet'.equations ↔ assignment.Solves sheet.equations) ∧
    (∀ index id equation, sheet'.entryAt index = .ok (id, equation) →
      sheet'.ReplacesLeaf (sheet'.perform (.substitute index)).1 id equation) ∧
    (∀ index failure, sheet'.entryAt index = .error failure →
      (sheet'.perform (.substitute index)).1 = sheet') ∧
    (∀ left right failure, sheet'.SameVar left right →
      (sheet'.perform (.equate left right)).2 = .error failure →
      (sheet'.perform (.equate left right)).1 = sheet' ∧
        ∀ assignment : Assignment, ¬ assignment.Solves sheet'.equations) := by
  refine ⟨fun assignment => Rewrites.solves_iff hcomplete hrewrites, ?_, ?_, ?_⟩
  · intro index id equation hentry
    exact replacesLeaf_perform_substitute hentry
  · intro index failure hentry
    rw [perform_substitute_of_error hentry]
  · intro left right failure hsame herror
    exact not_solves_of_mismatch hsame herror

/-- The first equation is listed twice and used on itself. The two pairs can be equated, a pair and `bool`
cannot. -/
theorem rewrites_solves_iff_of_shared_equation :
    let pair : Equation := ⟨0, .pair (.var 1) (.var 2)⟩
    let grown : Equation := ⟨0, .pair (.pair (.var 0) .int) .int⟩
    let sheet : Sheet := ⟨⟨#[⟨0, .pair (.var 0) .int⟩, pair, ⟨0, .bool⟩]⟩, [0, 1, 0, 2]⟩
    let sheet' : Sheet :=
      ⟨⟨#[grown, pair, ⟨0, .bool⟩, ⟨1, .pair (.var 0) .int⟩, ⟨2, .int⟩]⟩, [0, 1, 0, 2, 3, 4]⟩
    sheet.Complete ∧ sheet.Rewrites sheet' ∧
    (∀ assignment : Assignment,
      assignment.Solves sheet'.equations ↔ assignment.Solves sheet.equations) ∧
    sheet'.ReplacesLeaf (sheet'.perform (.substitute 4)).1 3 ⟨1, .pair (.var 0) .int⟩ ∧
    (sheet'.perform (.substitute 6)).1 = sheet' ∧
    sheet'.SameVar 0 3 ∧ (sheet'.perform (.equate 0 3)).1 = sheet' ∧
      ∀ assignment : Assignment, ¬ assignment.Solves sheet'.equations := by
  intro pair grown sheet sheet'
  have hcomplete : sheet.Complete := by decide
  have hpairs : Sheet.SameVar ⟨⟨#[grown, pair, ⟨0, .bool⟩]⟩, [0, 1, 0, 2]⟩ 0 1 :=
    ⟨0, 1, grown, pair, rfl, rfl, rfl⟩
  have hbool : sheet'.SameVar 0 3 := ⟨0, 2, grown, ⟨0, .bool⟩, rfl, rfl, rfl⟩
  have hrewrites : sheet.Rewrites sheet' :=
    .tail (.single ⟨_, .substitute 2, rfl⟩) ⟨_, .equate hpairs, rfl⟩
  obtain ⟨hsolves, hleaf, houtside, hmismatch⟩ := rewrites_solves_iff hcomplete hrewrites
  exact ⟨hcomplete, hrewrites, hsolves, hleaf 4 3 _ rfl, houtside 6 .noSuchPlace rfl, hbool,
    hmismatch 0 3 (.mismatch ⟨grown.rhs, .bool⟩) hbool rfl⟩

end Sheet

end TypeEquations
