import TypeEquations.Substitution

/-!
# Registries

Equations that are changed in place and shared between lists.
-/

namespace TypeEquations

abbrev EquationId := Nat

/-- Equations kept by number. A list of numbers is a list of equations in which one equation may stand
several times, and a change of an entry shows wherever its number stands. -/
structure Registry where
  entries : Array Equation
deriving Inhabited

namespace Registry

def empty : Registry :=
  ⟨#[]⟩

def get? (registry : Registry) (id : EquationId) : Option Equation :=
  registry.entries[id]?

def set (registry : Registry) (id : EquationId) (equation : Equation) : Registry :=
  ⟨registry.entries.setIfInBounds id equation⟩

def add (registry : Registry) (equation : Equation) : Registry × EquationId :=
  (⟨registry.entries.push equation⟩, registry.entries.size)

def addAll (registry : Registry) : List Equation → Registry × List EquationId
  | [] => (registry, [])
  | equation :: rest =>
    let (registry, id) := registry.add equation
    let (registry, ids) := registry.addAll rest
    (registry, id :: ids)

def select (registry : Registry) (ids : List EquationId) : List Equation :=
  ids.filterMap registry.get?

theorem get?_add (registry : Registry) (equation : Equation) (id : EquationId) :
    (registry.add equation).1.get? id =
      if id = registry.entries.size then some equation else registry.get? id := by
  simp only [add, get?, Array.getElem?_push]

theorem lt_size_of_get? {registry : Registry} {id : EquationId} {equation : Equation}
    (hget : registry.get? id = some equation) : id < registry.entries.size :=
  (Array.getElem?_eq_some_iff.mp hget).1

theorem get?_set (registry : Registry) (id other : EquationId) (equation : Equation) :
    (registry.set id equation).get? other =
      if id = other ∧ id < registry.entries.size then some equation else registry.get? other := by
  simp only [set, get?, Array.getElem?_setIfInBounds]
  by_cases heq : id = other
  · subst heq
    by_cases hlt : id < registry.entries.size <;> simp [hlt]
  · simp [heq]

theorem get?_set_of_ne {id other : EquationId} (hne : other ≠ id) (registry : Registry)
    (equation : Equation) : (registry.set id equation).get? other = registry.get? other := by
  rw [get?_set, if_neg fun h => hne h.1.symm]

theorem get?_set_self {registry : Registry} {id : EquationId} {old : Equation}
    (hget : registry.get? id = some old) (equation : Equation) :
    (registry.set id equation).get? id = some equation := by
  rw [get?_set, if_pos ⟨rfl, lt_size_of_get? hget⟩]

theorem set_of_get? {registry : Registry} {id : EquationId} {equation : Equation}
    (hget : registry.get? id = some equation) : registry.set id equation = registry := by
  obtain ⟨hlt, rfl⟩ := Array.getElem?_eq_some_iff.mp hget
  rw [set, Array.setIfInBounds_def, dif_pos hlt, Array.set_getElem_self]

theorem select_append (registry : Registry) (ids ids' : List EquationId) :
    registry.select (ids ++ ids') = registry.select ids ++ registry.select ids' :=
  List.filterMap_append

theorem exists_get?_of_lt {registry : Registry} {id : EquationId} (hlt : id < registry.entries.size) :
    ∃ equation, registry.get? id = some equation :=
  ⟨_, Array.getElem?_eq_getElem hlt⟩

theorem select_cons {registry : Registry} {id : EquationId} {equation : Equation}
    (hget : registry.get? id = some equation) (rest : List EquationId) :
    registry.select (id :: rest) = equation :: registry.select rest :=
  List.filterMap_cons_some hget

theorem mem_select {registry : Registry} {ids : List EquationId} {equation : Equation} :
    equation ∈ registry.select ids ↔ ∃ id ∈ ids, registry.get? id = some equation :=
  List.mem_filterMap

theorem entries_addAll (registry : Registry) (equations : List Equation) :
    (registry.addAll equations).1.entries = registry.entries ++ equations.toArray := by
  induction equations generalizing registry with
  | nil => simp [addAll]
  | cons equation rest ih =>
    simp only [addAll, ih, add]
    simp

theorem ids_addAll (registry : Registry) (equations : List Equation) :
    (registry.addAll equations).2 = List.range' registry.entries.size equations.length := by
  induction equations generalizing registry with
  | nil => simp [addAll]
  | cons equation rest ih => simp [addAll, ih, add, List.range'_succ]

/-- The numbers of new entries lead to the equations added. -/
theorem select_addAll (registry : Registry) (equations : List Equation) :
    (registry.addAll equations).1.select (registry.addAll equations).2 = equations := by
  induction equations generalizing registry with
  | nil => simp [addAll, select]
  | cons equation rest ih =>
    have hkept : ((registry.add equation).1.addAll rest).1.get? registry.entries.size =
        some equation := by
      rw [get?, entries_addAll]
      simp [add]
    have hrest := ih (registry.add equation).1
    simp only [select] at hrest ⊢
    simp only [addAll, add] at hkept hrest ⊢
    rw [List.filterMap_cons, hkept, hrest]

theorem size_addAll (registry : Registry) (equations : List Equation) :
    (registry.addAll equations).1.entries.size = registry.entries.size + equations.length := by
  simp [entries_addAll]

theorem lt_size_addAll {registry : Registry} {id : EquationId} (equations : List Equation)
    (hlt : id < registry.entries.size) : id < (registry.addAll equations).1.entries.size := by
  rw [size_addAll]
  exact Nat.lt_add_right _ hlt

theorem nodup_addAll (registry : Registry) (equations : List Equation) :
    (registry.addAll equations).2.Nodup := by
  rw [ids_addAll]
  exact List.nodup_range'

/-- New entries have the numbers after the old ones. -/
theorem mem_addAll {registry : Registry} {equations : List Equation} {id : EquationId} :
    id ∈ (registry.addAll equations).2 ↔
      registry.entries.size ≤ id ∧ id < (registry.addAll equations).1.entries.size := by
  rw [ids_addAll, size_addAll, List.mem_range'_1]

theorem get?_addAll_of_lt {registry : Registry} {id : EquationId} (equations : List Equation)
    (hlt : id < registry.entries.size) :
    (registry.addAll equations).1.get? id = registry.get? id := by
  rw [get?, entries_addAll, Array.getElem?_append_left hlt, get?]

/-- Old numbers lead to the same equations when new entries come. -/
theorem select_addAll_of_lt {registry : Registry} {ids : List EquationId} (equations : List Equation)
    (hlt : ∀ id ∈ ids, id < registry.entries.size) :
    (registry.addAll equations).1.select ids = registry.select ids := by
  induction ids with
  | nil => rfl
  | cons id rest ih =>
    have hhead := get?_addAll_of_lt equations (hlt id List.mem_cons_self)
    have htail := ih fun other hother => hlt other (List.mem_cons_of_mem id hother)
    simp only [select, List.filterMap_cons, hhead] at htail ⊢
    rw [htail]

def copyAll (registry : Registry) (ids : List EquationId) : Registry × List EquationId :=
  registry.addAll (registry.select ids)

def rename (registry : Registry) (source target : Int) (id : EquationId) :
    Registry × Except InvalidId Unit :=
  match registry.get? id with
  | none => (registry, .ok ())
  | some equation =>
    let (renamed, outcome) := equation.rename source target
    (registry.set id renamed, outcome)

theorem rename_of_get?_eq_none {registry : Registry} {id : EquationId} (hget : registry.get? id = none)
    (source target : Int) : registry.rename source target id = (registry, .ok ()) := by
  rw [rename, hget]

theorem rename_of_get? {registry : Registry} {id : EquationId} {equation : Equation}
    (hget : registry.get? id = some equation) (source target : Int) :
    registry.rename source target id =
      (registry.set id (equation.rename source target).1, (equation.rename source target).2) := by
  rw [rename, hget]

/-- Renames entry after entry up to the first failure, which leaves its own traces. -/
def renameAll (registry : Registry) (source target : Int) :
    List EquationId → Registry × Except InvalidId Unit
  | [] => (registry, .ok ())
  | id :: rest =>
    match registry.rename source target id with
    | (registry, .ok ()) => registry.renameAll source target rest
    | (registry, .error error) => (registry, .error error)

@[simp]
theorem size_set (registry : Registry) (id : EquationId) (equation : Equation) :
    (registry.set id equation).entries.size = registry.entries.size :=
  Array.size_setIfInBounds

@[simp]
theorem size_rename (registry : Registry) (source target : Int) (id : EquationId) :
    (registry.rename source target id).1.entries.size = registry.entries.size := by
  unfold rename
  split
  · rfl
  · exact size_set ..

@[simp]
theorem size_renameAll (registry : Registry) (source target : Int) (ids : List EquationId) :
    (registry.renameAll source target ids).1.entries.size = registry.entries.size := by
  induction ids generalizing registry with
  | nil => rfl
  | cons id rest ih =>
    have hrename := registry.size_rename source target id
    rw [renameAll]
    split <;> rename_i hresult <;> rw [hresult] at hrename
    · rw [ih, hrename]
    · exact hrename

/-- A renaming changes no other entry. -/
theorem get?_rename_of_ne {id other : EquationId} (hne : other ≠ id) (registry : Registry)
    (source target : Int) : (registry.rename source target id).1.get? other = registry.get? other := by
  unfold rename
  split
  · rfl
  · exact get?_set_of_ne hne ..

/-- A renaming leaves all but the listed entries alone. -/
theorem get?_renameAll_of_not_mem {ids : List EquationId} {other : EquationId} (hother : other ∉ ids)
    (registry : Registry) (source target : Int) :
    (registry.renameAll source target ids).1.get? other = registry.get? other := by
  induction ids generalizing registry with
  | nil => rfl
  | cons id rest ih =>
    rw [List.mem_cons, not_or] at hother
    obtain ⟨hne, hrest⟩ := hother
    have hrename := get?_rename_of_ne hne registry source target
    rw [renameAll]
    split <;> rename_i hresult <;> rw [hresult] at hrename
    · rw [ih hrest, hrename]
    · exact hrename

def substitute (registry : Registry) (ids : List EquationId) (id : EquationId) : Registry × Option Attempt :=
  match registry.get? id with
  | none => (registry, none)
  | some equation =>
    -- the equation may be one of those listed
    let attempt := equation.rhs.substitute (registry.select ids)
    (registry.set id { equation with rhs := attempt.type }, some attempt)

def mergedVariables? (equation : Equation) : Option (Int × Int) :=
  match equation.variables? with
  | some (x, y) => if x = y then none else some (max x y, min x y)
  | none => none

def mergeFrom (registry : Registry) (ids : List EquationId) :
    List EquationId → Registry × Except InvalidId (List (Int × Int))
  | [] => (registry, .ok [])
  | id :: rest =>
    match (registry.get? id).bind mergedVariables? with
    | none => registry.mergeFrom ids rest
    | some (source, target) =>
      match registry.renameAll source target (ids.filter (· ≠ id)) with
      | (registry, .error error) => (registry, .error error)
      | (registry, .ok ()) =>
        let (registry, outcome) := registry.mergeFrom ids rest
        (registry, outcome.map ((source, target) :: ·))

/-- Takes the listed equations in order, each as it then stands. One between two variables renames the
greater to the smaller in all others. The answer tells the renamings. -/
def merge (registry : Registry) (ids : List EquationId) :
    Registry × Except InvalidId (List (Int × Int)) :=
  registry.mergeFrom ids ids

section MergeFrom

variable {registry registry' : Registry} {ids rest : List EquationId} {id : EquationId}
  {source target : Int}

theorem mergeFrom_of_none (hnone : (registry.get? id).bind mergedVariables? = none) :
    registry.mergeFrom ids (id :: rest) = registry.mergeFrom ids rest := by
  rw [mergeFrom, hnone]

theorem mergeFrom_of_error (hsome : (registry.get? id).bind mergedVariables? = some (source, target))
    {error : InvalidId}
    (hrename : registry.renameAll source target (ids.filter (· ≠ id)) = (registry', .error error)) :
    registry.mergeFrom ids (id :: rest) = (registry', .error error) := by
  simp only [mergeFrom, hsome, hrename]

theorem mergeFrom_of_ok (hsome : (registry.get? id).bind mergedVariables? = some (source, target))
    (hrename : registry.renameAll source target (ids.filter (· ≠ id)) = (registry', .ok ())) :
    registry.mergeFrom ids (id :: rest) = ((registry'.mergeFrom ids rest).1,
      (registry'.mergeFrom ids rest).2.map ((source, target) :: ·)) := by
  simp only [mergeFrom, hsome, hrename]

/-- A renaming may fail halfway; what it keeps nevertheless, a merging keeps. -/
theorem mergeFrom_preserves {p : Registry → Prop}
    (hrenames : ∀ registry, ∀ id ∈ rest, ∀ source target,
      (registry.get? id).bind mergedVariables? = some (source, target) → p registry →
        p (registry.renameAll source target (ids.filter (· ≠ id))).1)
    (hp : p registry) : p (registry.mergeFrom ids rest).1 := by
  induction rest generalizing registry with
  | nil => exact hp
  | cons id rest ih =>
    have hlater {renamed : Registry} (hp : p renamed) : p (renamed.mergeFrom ids rest).1 :=
      ih (fun registry other hother => hrenames registry other (List.mem_cons_of_mem id hother)) hp
    cases hcalled : (registry.get? id).bind mergedVariables? with
    | none =>
      rw [mergeFrom_of_none hcalled]
      exact hlater hp
    | some both =>
      obtain ⟨source, target⟩ := both
      have hrenamed := hrenames registry id List.mem_cons_self source target hcalled hp
      rcases hrename : registry.renameAll source target (ids.filter (· ≠ id)) with ⟨renamed, outcome⟩
      rw [hrename] at hrenamed
      cases outcome with
      | error error =>
        rw [mergeFrom_of_error hcalled hrename]
        exact hrenamed
      | ok =>
        rw [mergeFrom_of_ok hcalled hrename]
        exact hlater hrenamed

end MergeFrom

/-- Merging leaves all but the listed entries alone. -/
theorem get?_mergeFrom_of_not_mem {ids : List EquationId} {other : EquationId} (hother : other ∉ ids)
    (registry : Registry) (rest : List EquationId) :
    (registry.mergeFrom ids rest).1.get? other = registry.get? other := by
  refine mergeFrom_preserves (p := fun renamed => renamed.get? other = registry.get? other) ?_ rfl
  intro renamed id _ source target _ hkept
  have hothers : other ∉ ids.filter (· ≠ id) := fun hmem => hother (List.mem_filter.mp hmem).1
  rw [get?_renameAll_of_not_mem hothers, hkept]

/-- A merging adds no entries and drops none. -/
theorem size_mergeFrom (registry : Registry) (ids rest : List EquationId) :
    (registry.mergeFrom ids rest).1.entries.size = registry.entries.size := by
  refine mergeFrom_preserves (p := fun renamed => renamed.entries.size = registry.entries.size) ?_ rfl
  intro renamed id _ source target _ hsize
  rw [size_renameAll, hsize]

@[simp]
theorem size_merge (registry : Registry) (ids : List EquationId) :
    (registry.merge ids).1.entries.size = registry.entries.size :=
  registry.size_mergeFrom ids ids

end Registry

end TypeEquations
