import TypeEquations.Ascending
import TypeEquations.InvalidId

/-!
# Types

Types, their variables, and renaming.
-/

namespace TypeEquations

inductive Ty where
  | fn (left right : Ty)
  | pair (left right : Ty)
  | var (id : Nat)
  | bool
  | int
deriving DecidableEq, Inhabited

namespace Ty

def occurrences : Ty → List Nat
  | fn left right => left.occurrences ++ right.occurrences
  | pair left right => left.occurrences ++ right.occurrences
  | var id => [id]
  | bool => []
  | int => []

def vars (type : Ty) : List Nat :=
  ascending type.occurrences

/-- Renames a variable. The new id is looked at only where the old one occurs. -/
def rename (source : Int) (target : Except InvalidId Nat) : Ty → Except InvalidId Ty
  | fn left right => do
    let left ← left.rename source target
    let right ← right.rename source target
    return fn left right
  | pair left right => do
    let left ← left.rename source target
    let right ← right.rename source target
    return pair left right
  | var id => if source = id then target.map var else .ok (var id)
  | bool => .ok bool
  | int => .ok int

@[simp]
theorem mem_vars {x : Nat} {type : Ty} : x ∈ type.vars ↔ x ∈ type.occurrences :=
  mem_ascending

/-- Where the variable does not occur, the new id is not even looked at. -/
theorem rename_of_not_mem {source : Int} {target : Except InvalidId Nat} {type : Ty}
    (habsent : ∀ id ∈ type.occurrences, source ≠ id) : type.rename source target = .ok type := by
  induction type with
  | fn left right ihl ihr =>
    simp only [occurrences, List.mem_append] at habsent
    rw [rename, ihl fun id h => habsent id (.inl h), ihr fun id h => habsent id (.inr h)]
    rfl
  | pair left right ihl ihr =>
    simp only [occurrences, List.mem_append] at habsent
    rw [rename, ihl fun id h => habsent id (.inl h), ihr fun id h => habsent id (.inr h)]
    rfl
  | var id => rw [rename, if_neg (habsent id (by simp [occurrences]))]
  | bool => rfl
  | int => rfl

end Ty

end TypeEquations
