import TypeEquations.Binary64

/-!
# Shortest decimals

For each count of digits the two decimals around a double are tried; the least count at which one of
them lies among the fractions that round to the double is enough to tell it from all others.
-/

namespace TypeEquations.Binary64

structure Decimal where
  digits : Nat
  exponent : Int
deriving DecidableEq

/-- The number of places before the point: `10 ^ (places - 1) ≤ num / den < 10 ^ places`. -/
def places (num den : Nat) : Int :=
  if den ≤ num then (Nat.toDigits 10 (num / den)).length
  else
    let reach := (Nat.toDigits 10 (den / num)).length
    if den ≤ num * Nat.pow 10 (reach - 1) then 2 - (reach : Int) else 1 - (reach : Int)

/-- The fractions that round to a finite number, as bounds over a common denominator of four times
its own. -/
def roundingBounds (x : Binary64) : Nat × Nat × Nat :=
  let (num, den) := x.magnitude
  let unit := num / x.significand
  let below := if x.fractionField = 0 ∧ 1 < x.exponentField then unit else 2 * unit
  (4 * num - below, 4 * num + 2 * unit, 4 * den)

def roundsBack (x : Binary64) (num den : Nat) : Bool :=
  let (low, high, scale) := x.roundingBounds
  if x.significand % 2 = 0 then low * den ≤ num * scale ∧ num * scale ≤ high * den
  else low * den < num * scale ∧ num * scale < high * den

def decimalWithDigits? (x : Binary64) (count : Nat) : Option Decimal :=
  let (num, den) := x.magnitude
  let exponent := places num den - count
  let up := Nat.pow 10 exponent.toNat
  let down := Nat.pow 10 (-exponent).toNat
  let low := num * down / (den * up)
  let fits := fun digits => x.roundsBack (digits * up) down
  if fits low then
    if fits (low + 1) ∧ divideToEven (num * down) (den * up) = low + 1 then some ⟨low + 1, exponent⟩
    else some ⟨low, exponent⟩
  else if fits (low + 1) then some ⟨low + 1, exponent⟩
  else none

/-- The decimal of fewest digits that rounds to a finite number, and the nearest of these. -/
def shortest (x : Binary64) : Decimal :=
  if x.significand = 0 then ⟨0, 0⟩
  else ((List.range' 1 17).findSome? x.decimalWithDigits?).getD ⟨0, 0⟩

end TypeEquations.Binary64
