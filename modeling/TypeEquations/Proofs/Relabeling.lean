import TypeEquations.Proofs.Renamed

/-!
# Relabeling

A renaming to a natural number does not fail. It is then a map of all variables of types and equations, and
in a registry the listed entries are mapped, each once.
-/

namespace TypeEquations

def relabelId (source target id : Nat) : Nat :=
  if id = source then target else id

variable {source target : Nat}

@[simp]
theorem relabelId_source (source target : Nat) : relabelId source target source = target :=
  if_pos rfl

theorem relabelId_of_ne {id : Nat} (hne : id ≠ source) : relabelId source target id = id :=
  if_neg hne

theorem relabelId_le {id : Nat} (hle : target ≤ source) : relabelId source target id ≤ id := by
  rw [relabelId]
  split
  · omega
  · exact Nat.le_refl id

namespace Ty

def relabel (source target : Nat) : Ty → Ty
  | fn left right => fn (left.relabel source target) (right.relabel source target)
  | pair left right => pair (left.relabel source target) (right.relabel source target)
  | var id => var (relabelId source target id)
  | bool => bool
  | int => int

theorem rename_natCast (source target : Nat) (type : Ty) :
    type.rename source (.ok target) = .ok (type.relabel source target) := by
  induction type with
  | fn left right ihl ihr => exact rename_fn_eq_ok_iff.mpr ⟨_, _, ihl, ihr, rfl⟩
  | pair left right ihl ihr => exact rename_pair_eq_ok_iff.mpr ⟨_, _, ihl, ihr, rfl⟩
  | var id =>
    by_cases heq : id = source
    · subst heq
      simp [rename, relabel, Except.map]
    · have hne : (source : Int) ≠ id := by omega
      simp [rename, relabel, relabelId_of_ne heq, hne]
  | bool | int => rfl

theorem relabel_eq_var_iff {type : Ty} {y : Nat} :
    type.relabel source target = .var y ↔ ∃ x, type = .var x ∧ relabelId source target x = y := by
  cases type <;> simp [relabel]

end Ty

namespace Equation

def relabel (source target : Nat) (equation : Equation) : Equation :=
  ⟨if equation.var = source then target else equation.var, equation.rhs.relabel source target⟩

theorem rename_natCast (source target : Nat) (equation : Equation) :
    equation.rename source target = (equation.relabel source target, .ok ()) := by
  have hid : variableId (.int target) = .ok target := variableId_int_eq_ok_iff.mpr rfl
  rw [rename, hid, Ty.rename_natCast]
  rfl

def Mentions (equation : Equation) (x : Nat) : Prop :=
  equation.var = x ∨ x ∈ equation.rhs.occurrences

theorem natCast_mem_occurrences {equation : Equation} {x : Nat} :
    (x : Int) ∈ equation.occurrences ↔ equation.Mentions x := by
  rw [occurrences, List.mem_cons, eq_comm, Mentions]
  refine or_congr_right ⟨?_, List.mem_map_of_mem⟩
  intro hmem
  obtain ⟨y, hy, heq⟩ := List.mem_map.mp hmem
  exact Int.ofNat_inj.mp heq ▸ hy

/-- The source goes, and the target is mentioned where the source was. -/
theorem mentions_relabel {equation : Equation} {x : Nat} :
    (equation.relabel source target).Mentions x ↔
      x = target ∧ equation.Mentions source ∨ x ≠ source ∧ equation.Mentions x := by
  have hrename := rename_natCast source target equation
  rw [← natCast_mem_occurrences, mem_occurrences_of_rename hrename]
  simp only [natCast_mem_occurrences, Int.ofNat_inj, ne_eq]

/-- An equation between variables comes from one. -/
theorem relabel_eq_link_iff {equation : Equation} {x y : Nat} :
    equation.relabel source target = ⟨x, .var y⟩ ↔
      ∃ a b : Nat, equation = ⟨a, .var b⟩ ∧ relabelId source target a = x ∧
        relabelId source target b = y := by
  obtain ⟨var, rhs⟩ := equation
  simp only [relabel, Equation.mk.injEq, Ty.relabel_eq_var_iff]
  constructor
  · rintro ⟨hvar, b, rfl, hb⟩
    split at hvar <;> rename_i hsource
    · exact ⟨source, b, ⟨hsource, rfl⟩, (relabelId_source ..).trans (Int.ofNat_inj.mp hvar), hb⟩
    · have hne : x ≠ source := by
        rintro rfl
        exact hsource hvar
      exact ⟨x, b, ⟨hvar, rfl⟩, relabelId_of_ne hne, hb⟩
  · rintro ⟨a, b, ⟨rfl, rfl⟩, rfl, hb⟩
    refine ⟨?_, b, rfl, hb⟩
    rw [relabelId]
    split <;> split <;> omega

end Equation

namespace Registry

/-- Entries that are listed once are relabelled, the others stay. -/
theorem renameAll_natCast {ids : List EquationId} (hnodup : ids.Nodup) (registry : Registry)
    (source target : Nat) :
    (registry.renameAll source target ids).2 = .ok () ∧
      ∀ other, (registry.renameAll source target ids).1.get? other =
        if other ∈ ids then (registry.get? other).map (·.relabel source target)
        else registry.get? other := by
  have hok : (registry.renameAll source target ids).2 = .ok () := by
    rw [renameAll_eq_ok_iff hnodup]
    intro id _ equation _
    rw [Equation.rename_natCast]
  refine ⟨hok, ?_⟩
  intro other
  rw [get?_renameAll hnodup hok]
  simp only [Equation.rename_natCast]

end Registry

end TypeEquations
