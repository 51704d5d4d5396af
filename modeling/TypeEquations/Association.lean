/-!
# Association lists

Keys with values, in the order in which the keys came up.
-/

namespace TypeEquations

variable {κ β : Type} [DecidableEq κ]

def put (key : κ) (value : β) : List (κ × β) → List (κ × β)
  | [] => [(key, value)]
  | entry :: rest => if entry.1 = key then (key, value) :: rest else entry :: put key value rest

/-- Of several values for one key the last counts. -/
def putAll (entries : List (κ × β)) : List (κ × β) :=
  entries.foldl (fun entries entry => put entry.1 entry.2 entries) []

theorem lookup_put (key other : κ) (value : β) (entries : List (κ × β)) :
    (put key value entries).lookup other =
      if other = key then some value else entries.lookup other := by
  induction entries with
  | nil =>
    by_cases heq : other = key
    · simp [put, heq]
    · simp [put, List.lookup_cons, heq, beq_false_of_ne heq]
  | cons entry rest ih =>
    obtain ⟨name, old⟩ := entry
    by_cases hname : name = key
    · subst hname
      by_cases heq : other = name
      · simp [put, heq]
      · simp [put, List.lookup_cons, heq, beq_false_of_ne heq]
    · by_cases heq : other = name
      · subst heq
        simp [put, hname]
      · simp [put, hname, List.lookup_cons, beq_false_of_ne heq, ih]

theorem put_of_not_mem {key : κ} {value : β} {entries : List (κ × β)} (hfresh : key ∉ entries.map (·.1)) :
    put key value entries = entries ++ [(key, value)] := by
  induction entries with
  | nil => rfl
  | cons entry rest ih =>
    rw [List.map_cons, List.mem_cons, not_or] at hfresh
    rw [put, if_neg (Ne.symm hfresh.1), ih hfresh.2, List.cons_append]

/-- Entries with different keys stay as they are. -/
theorem putAll_of_nodup {entries : List (κ × β)} (hnodup : (entries.map (·.1)).Nodup) :
    putAll entries = entries := by
  have hfold (before behind : List (κ × β)) (hnodup : ((before ++ behind).map (·.1)).Nodup) :
      behind.foldl (fun entries entry => put entry.1 entry.2 entries) before = before ++ behind := by
    induction behind generalizing before with
    | nil => simp
    | cons entry behind ih =>
      have hfresh : entry.1 ∉ before.map (·.1) := by
        rw [List.map_append, List.nodup_append] at hnodup
        exact fun hmem => hnodup.2.2 _ hmem _ List.mem_cons_self rfl
      rw [List.foldl_cons, put_of_not_mem hfresh, ih _ (by simpa using hnodup), List.append_assoc,
        List.singleton_append]
  exact hfold [] entries hnodup

end TypeEquations
