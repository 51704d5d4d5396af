import TypeEquations.Json.Inspect
import TypeEquations.Relation

/-!
# Equality and order of JSON values

Numbers are equal by value, whatever their form, and objects whatever the order of their members. What is
not a number equals nothing, but as a part of a value it is the same as itself. Only numbers among
themselves, texts and lists have an order.
-/

namespace TypeEquations.Json

/-- A number as a fraction, or an infinity, of rank one or minus one. -/
structure Quantity where
  rank : Int
  numerator : Int
  denominator : Nat
deriving DecidableEq

def Quantity.compare (a b : Quantity) : Ordering :=
  (Ord.compare a.rank b.rank).then
    (Ord.compare (a.numerator * b.denominator) (b.numerator * a.denominator))

def quantityOfFloat? (x : Binary64) : Option Quantity :=
  let sign : Int := if x.isNegative then -1 else 1
  if x.isNaN then none
  else if x.isFinite then some ⟨0, sign * x.magnitude.1, x.magnitude.2⟩
  else some ⟨sign, 0, 1⟩

def quantity? : Json → Option Quantity
  | bool value => some ⟨0, if value then 1 else 0, 1⟩
  | int value => some ⟨0, value, 1⟩
  | float value => quantityOfFloat? value
  | _ => none

def isNumber : Json → Bool
  | bool _ | int _ | float _ => true
  | _ => false

def compareNumbers? (a b : Json) : Option Ordering :=
  match a.quantity?, b.quantity? with
  | some a, some b => some (a.compare b)
  | _, _ => none

def isNaN : Json → Bool
  | float value => value.isNaN
  | _ => false

mutual

def equal : Json → Json → Bool
  | null, null => true
  | str a, str b => a = b
  | arr as, arr bs => equalItems as bs
  | obj as, obj bs => as.length = bs.length && equalMembers as bs
  | a, b => a.compareNumbers? b = some .eq

def equalItems : List Json → List Json → Bool
  | [], [] => true
  | a :: as, b :: bs => (a.isNaN && b.isNaN || a.equal b) && equalItems as bs
  | _, _ => false

def equalMembers : List (String × Json) → List (String × Json) → Bool
  | [], _ => true
  | (key, value) :: rest, others =>
    (others.lookup key).any (fun other => value.isNaN && other.isNaN || value.equal other) &&
      equalMembers rest others

end

def same (a b : Json) : Bool :=
  a.isNaN && b.isNaN || a.equal b

mutual

def relate (relation : Relation) : Json → Json → Except Unordered Bool
  | str a, str b => .ok (relation.holds (Ord.compare a b))
  | arr as, arr bs => relateItems relation as bs
  | a, b =>
    if a.isNumber && b.isNumber then .ok ((a.compareNumbers? b).any relation.holds)
    else .error ⟨relation, a.kind, b.kind⟩

def relateItems (relation : Relation) : List Json → List Json → Except Unordered Bool
  | [], [] => .ok (relation.holds .eq)
  | [], _ :: _ => .ok (relation.holds .lt)
  | _ :: _, [] => .ok (relation.holds .gt)
  | a :: as, b :: bs => if a.same b then relateItems relation as bs else a.relate relation b

end

def isMutable : Json → Bool
  | arr _ | obj _ => true
  | _ => false

end TypeEquations.Json
