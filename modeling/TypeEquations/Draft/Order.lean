import TypeEquations.Draft
import TypeEquations.Json.Order
import TypeEquations.RunSort
import TypeEquations.Ty.SortKey

/-!
# The order of drafts

Types are ordered among themselves, and so are some values of other kinds. Between a type and another
value no order is defined, and a tree with other values in it has no place in the order of types.
-/

namespace TypeEquations.Draft

def kind : Draft → String
  | fn _ _ => "Function"
  | pair _ _ => "Tuple"
  | var _ => "Var"
  | bool => "Bool"
  | int => "Int"
  | foreign value => value.kind

def same : Draft → Draft → Bool
  | fn left right, fn left' right' => left.same left' && right.same right'
  | pair left right, pair left' right' => left.same left' && right.same right'
  | var id, var id' => id = id'
  | bool, bool => true
  | int, int => true
  | foreign value, foreign value' => value.same value'
  | _, _ => false

def equal : Draft → Draft → Bool
  | foreign value, foreign value' => value.equal value'
  | a, b => a.same b

inductive Extreme where
  | least
  | greatest
deriving DecidableEq

def Extreme.name : Extreme → String
  | least => "min"
  | greatest => "max"

def Extreme.relation : Extreme → Relation
  | least => .less
  | greatest => .greater

inductive OrderError where
  | unordered (error : Unordered)
  | lacking (error : Lacking)
  | noneOf (extreme : Extreme)
deriving DecidableEq

def OrderError.message : OrderError → String
  | unordered error => error.message
  | lacking error => error.message
  | noneOf extreme => extreme.name ++ "() arg is an empty sequence"

def ranked (draft : Draft) : Except OrderError Ty :=
  draft.toTy.mapError fun error => .lacking ⟨error.found.kind, "sort_key"⟩

def relate (relation : Relation) : Draft → Draft → Except OrderError Bool
  | foreign a, foreign b => (a.relate relation b).mapError .unordered
  | foreign a, b => .error (.unordered ⟨relation, a.kind, b.kind⟩)
  | a, foreign b => .error (.unordered ⟨relation, a.kind, b.kind⟩)
  | a, b => do
    let a ← a.ranked
    let b ← b.ranked
    (a.relate relation b).mapError .unordered

def sort (drafts : List Draft) : Except OrderError (List Draft) :=
  runSort (relate .less) drafts

def find (extreme : Extreme) : List Draft → Except OrderError Draft
  | [] => .error (.noneOf extreme)
  | first :: rest =>
    rest.foldlM (fun found draft => do
      return if ← draft.relate extreme.relation found then draft else found) first

structure Unhashable where
  kind : String
deriving DecidableEq

def Unhashable.message (error : Unhashable) : String :=
  "unhashable type: '" ++ error.kind ++ "'"

def mutablePart? : Draft → Option Json
  | fn left right => left.mutablePart? <|> right.mutablePart?
  | pair left right => left.mutablePart? <|> right.mutablePart?
  | foreign value => if value.isMutable then some value else none
  | _ => none

/-- The first of each class of drafts that are the same. -/
def distinct (drafts : List Draft) : Except Unhashable (List Draft) :=
  match drafts.findSome? mutablePart? with
  | some value => .error ⟨value.kind⟩
  | none => .ok <| drafts.foldl (fun kept draft => if kept.any draft.same then kept else kept ++ [draft]) []

end TypeEquations.Draft
