import TypeEquations.Proofs.Normalizing
import TypeEquations.Proofs.Renumbering

/-!
# Redirecting

A renaming to a natural number redirects every variable of a type and changes nothing else. So what becomes of the
variables, of a second renaming and of the way back is seen from the map of the ids alone. Substituting by one
equation between the two variables does the same, one occurrence at a time. A renaming to what numbers no
variable fails exactly where the variable occurs.
-/

namespace TypeEquations

def redirect (source : Int) (target id : Nat) : Nat :=
  if source = id then target else id

variable {source : Int} {target : Nat} {f g : Nat → Nat}

theorem redirect_of_eq {id : Nat} (heq : source = id) : redirect source target id = target :=
  if_pos heq

theorem redirect_of_ne {id : Nat} (hne : source ≠ id) : redirect source target id = id :=
  if_neg hne

theorem redirect_redirect (hne : source ≠ target) (id : Nat) :
    redirect source target (redirect source target id) = redirect source target id := by
  by_cases heq : source = id
  · rw [redirect_of_eq heq, redirect_of_ne hne]
  · rw [redirect_of_ne heq, redirect_of_ne heq]

theorem redirect_back {source id : Nat} (hne : id ≠ target) :
    redirect target source (redirect source target id) = id := by
  by_cases heq : source = id
  · rw [redirect_of_eq (congrArg Nat.cast heq), redirect_of_eq rfl, heq]
  · have hstay : redirect source target id = id := redirect_of_ne (mt Int.ofNat_inj.mp heq)
    rw [hstay, redirect_of_ne (mt Int.ofNat_inj.mp (Ne.symm hne))]

namespace Ty

def shape (type : Ty) : Ty :=
  type.renumber fun _ => 0

def Mentions (type : Ty) (x : Int) : Prop :=
  ∃ id ∈ type.vars, x = id

def count (x : Int) (type : Ty) : Nat :=
  type.occurrences.countP fun id : Nat => x = id

variable {type : Ty}

theorem renumber_renumber (type : Ty) : (type.renumber f).renumber g = type.renumber (g ∘ f) := by
  induction type with
  | fn left right ihl ihr | pair left right ihl ihr => simp only [renumber, ihl, ihr]
  | var id | bool | int => rfl

theorem occurrences_renumber (type : Ty) : (type.renumber f).occurrences = type.occurrences.map f := by
  induction type with
  | fn left right ihl ihr | pair left right ihl ihr =>
    simp only [renumber, occurrences, ihl, ihr, List.map_append]
  | var id | bool | int => rfl

theorem renumber_congr (hagree : ∀ id ∈ type.occurrences, f id = g id) :
    type.renumber f = type.renumber g := by
  induction type with
  | fn left right ihl ihr | pair left right ihl ihr =>
    rw [occurrences, List.forall_mem_append] at hagree
    rw [renumber, renumber, ihl hagree.1, ihr hagree.2]
  | var id => rw [renumber, renumber, hagree id List.mem_cons_self]
  | bool | int => rfl

theorem renumber_eq_self (hfixed : ∀ id ∈ type.occurrences, f id = id) : type.renumber f = type :=
  (renumber_congr hfixed).trans (renumber_id type)

theorem shape_renumber (type : Ty) : (type.renumber f).shape = type.shape :=
  renumber_renumber type

theorem forall_ne_of_not_mentions (habsent : ¬ type.Mentions source) :
    ∀ id ∈ type.occurrences, source ≠ id :=
  fun id hid heq => habsent ⟨id, mem_vars.mpr hid, heq⟩

/-- A renaming to a number always succeeds. -/
theorem rename_ok (source : Int) (target : Nat) (type : Ty) :
    type.rename source (.ok target) = .ok (type.renumber (redirect source target)) := by
  induction type with
  | fn left right ihl ihr => exact rename_fn_eq_ok_iff.mpr ⟨_, _, ihl, ihr, rfl⟩
  | pair left right ihl ihr => exact rename_pair_eq_ok_iff.mpr ⟨_, _, ihl, ihr, rfl⟩
  | var id =>
    rw [rename, renumber, redirect]
    split <;> rfl
  | bool | int => rfl

theorem mentions_fn {left right : Ty} {x : Int} :
    (fn left right).Mentions x ↔ left.Mentions x ∨ right.Mentions x := by
  simp only [Mentions, mem_vars, occurrences, List.mem_append, or_and_right, exists_or]

theorem mentions_pair {left right : Ty} {x : Int} :
    (pair left right).Mentions x ↔ left.Mentions x ∨ right.Mentions x := by
  simp only [Mentions, mem_vars, occurrences, List.mem_append, or_and_right, exists_or]

/-- The error is found at the leftmost occurrence, and is the same at all. -/
theorem rename_error (error : InvalidId) (hmentions : type.Mentions source) :
    type.rename source (.error error) = .error error := by
  induction type with
  | fn left right ihl ihr | pair left right ihl ihr =>
    rw [rename]
    by_cases hleft : left.Mentions source
    · rw [ihl hleft]
      rfl
    · have hright : right.Mentions source := by
        simpa only [mentions_fn, mentions_pair, hleft, false_or] using hmentions
      rw [rename_of_not_mem (forall_ne_of_not_mentions hleft), ihr hright]
      rfl
  | var id =>
    obtain ⟨x, hx, rfl⟩ := hmentions
    have heq : x = id := by simpa [occurrences] using hx
    rw [rename, if_pos (congrArg Nat.cast heq)]
    rfl
  | bool | int => simp [Mentions, occurrences] at hmentions

end Ty

/-! ### Renaming by substitution -/

namespace Equations

theorem lookup?_single (equation : Equation) (x : Int) :
    lookup? [equation] x = if equation.var = x then some equation else none := by
  rw [lookup?, List.find?_singleton]
  simp

/-- Each occurrence takes one replacement, and the variable that comes in has no equation. -/
theorem unfolds_redirect (hne : source ≠ target) (type : Ty) :
    Unfolds [⟨source, .var target⟩] type (type.renumber (redirect source target)) (type.count source) := by
  induction type with
  | fn left right ihl ihr =>
    rw [Ty.renumber, Ty.count, Ty.occurrences, List.countP_append]
    exact .fn ihl ihr
  | pair left right ihl ihr =>
    rw [Ty.renumber, Ty.count, Ty.occurrences, List.countP_append]
    exact .pair ihl ihr
  | var id =>
    by_cases heq : source = id
    · have hfree : Unfolds [⟨source, .var target⟩] (.var target) (.var target) 0 :=
        .free (by rw [lookup?_single, if_neg hne])
      have hcount : (Ty.var id).count source = 0 + 1 := by
        simp [Ty.count, Ty.occurrences, heq]
      rw [Ty.renumber, redirect_of_eq heq, hcount]
      exact .defined (by rw [lookup?_single, if_pos heq]) hfree
    · have hcount : (Ty.var id).count source = 0 := by
        simp [Ty.count, Ty.occurrences, heq]
      rw [Ty.renumber, redirect_of_ne heq, hcount]
      exact .free (by rw [lookup?_single, if_neg heq])
  | bool => exact .bool
  | int => exact .int

end Equations

/-- What a renaming to a number makes of a type: the laws by which it can be told. -/
structure Ty.Redirected (source : Int) (target : Nat) (type renamed : Ty) : Prop where
  shape_eq : renamed.shape = type.shape
  mem_vars_iff : type.Mentions source → ∀ x, x ∈ renamed.vars ↔ x = target ∨ x ∈ type.vars ∧ source ≠ x
  vars_eq : ¬ type.Mentions source → renamed.vars = type.vars
  again : source ≠ target → renamed.rename source (variableId (.int target)) = .ok renamed
  back : target ∉ type.vars → renamed.rename target (variableId (.int source)) = .ok type
  normalize_eq : source ≠ target → ∀ state : Elimination, state.Quiet →
    state.equations = [⟨source, .var target⟩] → (type.count source : Int) ≤ state.limit →
      (state.normalize type).2 = .ok renamed ∧
      ∃ steps, (state.normalize type).1.Extends state steps ∧ steps.length = type.count source

namespace Ty

variable {type : Ty}

theorem renumber_redirect_of_not_mentions (habsent : ¬ type.Mentions source) :
    type.renumber (redirect source target) = type :=
  renumber_eq_self fun id hid => redirect_of_ne (forall_ne_of_not_mentions habsent id hid)

theorem mem_vars_redirect (hmentions : type.Mentions source) (x : Nat) :
    x ∈ (type.renumber (redirect source target)).vars ↔ x = target ∨ x ∈ type.vars ∧ source ≠ x := by
  simp only [mem_vars, occurrences_renumber, List.mem_map]
  constructor
  · rintro ⟨id, hid, rfl⟩
    by_cases heq : source = id
    · exact .inl (redirect_of_eq heq)
    · rw [redirect_of_ne heq]
      exact .inr ⟨hid, heq⟩
  · rintro (rfl | ⟨hx, hne⟩)
    · obtain ⟨id, hid, heq⟩ := hmentions
      exact ⟨id, mem_vars.mp hid, redirect_of_eq heq⟩
    · exact ⟨x, hx, redirect_of_ne hne⟩

/-- The way back undoes a renaming to a fresh variable. -/
theorem rename_back (hfresh : target ∉ type.vars) :
    (type.renumber (redirect source target)).rename target (variableId (.int source)) = .ok type := by
  have hne (id : Nat) (hid : id ∈ type.occurrences) : id ≠ target := by
    rintro rfl
    exact hfresh (mem_vars.mpr hid)
  cases source with
  | ofNat id =>
    have hback : (type.renumber (redirect id target)).renumber (redirect target id) = type := by
      rw [renumber_renumber]
      exact renumber_eq_self fun x hx => redirect_back (hne x hx)
    exact (rename_ok ..).trans (congrArg _ hback)
  | negSucc n =>
    -- no id is negative, so nothing was renamed, and nothing is renamed back
    have habsent : ¬ type.Mentions (Int.negSucc n) := by
      rintro ⟨id, -, heq⟩
      cases heq
    rw [renumber_redirect_of_not_mentions habsent]
    apply rename_of_not_mem
    intro id hid heq
    exact hne id hid (Int.ofNat_inj.mp heq.symm)

theorem redirected_renumber (source : Int) (target : Nat) (type : Ty) :
    Redirected source target type (type.renumber (redirect source target)) where
  shape_eq := shape_renumber type
  mem_vars_iff := mem_vars_redirect
  vars_eq habsent := by rw [renumber_redirect_of_not_mentions habsent]
  again hne := by
    have hagain : (type.renumber (redirect source target)).renumber (redirect source target) =
        type.renumber (redirect source target) := by
      rw [renumber_renumber]
      exact renumber_congr fun id _ => redirect_redirect hne id
    exact (rename_ok ..).trans (congrArg _ hagain)
  back := rename_back
  normalize_eq hne state hquiet hequations hlimit := by
    have hunfolds := Equations.unfolds_redirect hne type
    rw [← hequations] at hunfolds
    have hroom : type.count source ≤ state.limit.toNat := by omega
    obtain ⟨steps, hextends, hlength, hok⟩ := Elimination.normalize_of_cost_le hquiet hunfolds hroom
    exact ⟨hok, steps, hextends, hlength⟩

end Ty

namespace Equation

def renamedVar (source target : Int) (equation : Equation) : Int :=
  if equation.var = source then target else equation.var

theorem rename_of_rhs_ok {equation : Equation} {target : Int} {rhs : Ty}
    (hrhs : equation.rhs.rename source (variableId (.int target)) = .ok rhs) :
    equation.rename source target = (⟨equation.renamedVar source target, rhs⟩, .ok ()) := by
  rw [rename, hrhs]
  rfl

/-- A failure leaves its trace: the variable is renamed and the right side is not. -/
theorem rename_of_rhs_error {equation : Equation} {target : Int} {error : InvalidId}
    (hrhs : equation.rhs.rename source (variableId (.int target)) = .error error) :
    equation.rename source target =
      (⟨equation.renamedVar source target, equation.rhs⟩, .error error) := by
  rw [rename, hrhs]
  rfl

theorem renamedVar_renamedVar {target : Int} (hne : source ≠ target) (equation : Equation) (rhs : Ty) :
    (⟨equation.renamedVar source target, rhs⟩ : Equation).renamedVar source target =
      equation.renamedVar source target := by
  by_cases heq : equation.var = source
  · simp [renamedVar, heq, Ne.symm hne]
  · simp [renamedVar, heq]

theorem renamedVar_back {target : Int} {equation : Equation} (hfresh : equation.var ≠ target) (rhs : Ty) :
    (⟨equation.renamedVar source target, rhs⟩ : Equation).renamedVar target source = equation.var := by
  by_cases heq : equation.var = source
  · simp [renamedVar, heq]
  · simp [renamedVar, heq, hfresh]

end Equation

/-- **Renaming.** To a number: the shape stays, the variable gives way to the new one, a second renaming changes
nothing, a new variable can be renamed back, and substituting by one equation between the two variables comes to the
same in as many steps as there are occurrences. To anything else: it fails exactly if the variable occurs. In an
equation both sides are renamed, and a failure leaves the right side as it was. -/
theorem rename_lawful (source : Int) :
    (∀ (type : Ty) (target : Nat), ∃ renamed,
      type.rename source (variableId (.int target)) = .ok renamed ∧
      type.Redirected source target renamed) ∧
    (∀ (type : Ty) (found : Json), (∀ id : Nat, found ≠ .int id) →
      (type.Mentions source → type.rename source (variableId found) = .error ⟨found⟩) ∧
      (¬ type.Mentions source → type.rename source (variableId found) = .ok type)) ∧
    (∀ (equation : Equation) (target : Nat), ∃ renamed : Equation,
      equation.rename source target = (renamed, .ok ()) ∧
      renamed.var = equation.renamedVar source target ∧
      equation.rhs.rename source (variableId (.int target)) = .ok renamed.rhs ∧
      (source ≠ target → renamed.rename source target = (renamed, .ok ())) ∧
      (equation.var ≠ target → target ∉ equation.rhs.vars →
        renamed.rename target source = (equation, .ok ()))) ∧
    ∀ (equation : Equation) (target : Int), target < 0 →
      (equation.rhs.Mentions source → equation.rename source target =
        (⟨equation.renamedVar source target, equation.rhs⟩, .error ⟨.int target⟩)) ∧
      (¬ equation.rhs.Mentions source → equation.rename source target =
        (⟨equation.renamedVar source target, equation.rhs⟩, .ok ())) := by
  have hinvalid (type : Ty) (found : Json) (hfound : ∀ id : Nat, found ≠ .int id) :
      (type.Mentions source → type.rename source (variableId found) = .error ⟨found⟩) ∧
      (¬ type.Mentions source → type.rename source (variableId found) = .ok type) := by
    have hid : variableId found = .error ⟨found⟩ := by
      unfold variableId
      split
      · exact absurd rfl (hfound _)
      · rfl
    rw [hid]
    exact ⟨Ty.rename_error _, fun habsent => Ty.rename_of_not_mem (Ty.forall_ne_of_not_mentions habsent)⟩
  refine ⟨?_, hinvalid, ?_, ?_⟩
  · intro type target
    exact ⟨_, Ty.rename_ok source target type, Ty.redirected_renumber source target type⟩
  · intro equation target
    have hlaws := Ty.redirected_renumber source target equation.rhs
    refine ⟨_, Equation.rename_of_rhs_ok (Ty.rename_ok ..), rfl, Ty.rename_ok .., ?_, ?_⟩
    · intro hne
      rw [Equation.rename_of_rhs_ok (hlaws.again hne), Equation.renamedVar_renamedVar hne]
    · intro hvar hfresh
      rw [Equation.rename_of_rhs_ok (hlaws.back hfresh), Equation.renamedVar_back hvar]
  · intro equation target hnegative
    have hfound (id : Nat) : Json.int target ≠ .int id := by
      rintro ⟨⟩
      omega
    obtain ⟨herror, hok⟩ := hinvalid equation.rhs (.int target) hfound
    exact ⟨fun hmentions => Equation.rename_of_rhs_error (herror hmentions),
      fun habsent => Equation.rename_of_rhs_ok (hok habsent)⟩

/-- A variable that occurs twice is renamed there and back, and in two steps; to `-1` it cannot be renamed, but the
variable of the equation is `-1` afterwards. -/
theorem rename_lawful_of_two_occurrences :
    let type : Ty := .pair (.var 3) (.fn (.var 3) .int)
    let renamed : Ty := .pair (.var 9) (.fn (.var 9) .int)
    let registry := Registry.empty.addAll [⟨3, .var 9⟩]
    let state := Elimination.start registry.1 registry.2 2 none
    type.rename 3 (variableId (.int 9)) = .ok renamed ∧
      renamed.rename 9 (variableId (.int 3)) = .ok type ∧
      (state.normalize type).2 = .ok renamed ∧
      type.rename 3 (variableId (.int (-1))) = .error ⟨.int (-1)⟩ ∧
      (Equation.mk 3 type).rename 3 (-1) = (⟨-1, type⟩, .error ⟨.int (-1)⟩) := by
  intro type renamed registry state
  have hquiet : state.Quiet := nofun
  have hequations : state.equations = [⟨3, .var 9⟩] := by
    rw [Elimination.equations_start, Registry.select_addAll]
  have hmentions : type.Mentions 3 := ⟨3, by decide, rfl⟩
  obtain ⟨hvalid, hinvalid, -, hfailing⟩ := rename_lawful 3
  obtain ⟨_, hrename, hlaws⟩ := hvalid type 9
  obtain rfl : renamed = _ := Except.ok.inj hrename
  refine ⟨hrename, hlaws.back (by decide), ?_, ?_, ?_⟩
  · exact (hlaws.normalize_eq (by decide) state hquiet hequations (by decide)).1
  · exact (hinvalid type (.int (-1)) (by rintro id ⟨⟩)).1 hmentions
  · exact (hfailing ⟨3, type⟩ (-1) (by decide)).1 hmentions

end TypeEquations
