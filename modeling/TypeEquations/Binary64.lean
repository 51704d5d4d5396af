/-!
# Doubles

A double is its bits. Its value is read off exactly, as a fraction of natural numbers, and a decimal
becomes the nearest double by exact division.
-/

namespace TypeEquations

structure Binary64 where
  bits : UInt64
deriving DecidableEq, Inhabited

namespace Binary64

/-- The weight of the bit in front of the fraction, which is not stored. -/
def leadingBit : Nat := 0x10000000000000

def signBit : Nat := 0x8000000000000000

def isNegative (x : Binary64) : Bool :=
  signBit ≤ x.bits.toNat

def exponentField (x : Binary64) : Nat :=
  x.bits.toNat / leadingBit % 2048

def fractionField (x : Binary64) : Nat :=
  x.bits.toNat % leadingBit

def isFinite (x : Binary64) : Bool :=
  x.exponentField ≠ 2047

def isNaN (x : Binary64) : Bool :=
  x.exponentField = 2047 ∧ x.fractionField ≠ 0

/-- A finite number has magnitude `significand * 2 ^ exponent`. -/
def significand (x : Binary64) : Nat :=
  if x.exponentField = 0 then x.fractionField else x.fractionField + leadingBit

def exponent (x : Binary64) : Int :=
  (max x.exponentField 1 : Nat) - 1075

def magnitude (x : Binary64) : Nat × Nat :=
  (x.significand * Nat.pow 2 x.exponent.toNat, Nat.pow 2 (-x.exponent).toNat)

def truncate (x : Binary64) : Int :=
  let size : Int := (x.magnitude.1 / x.magnitude.2 : Nat)
  if x.isNegative then -size else size

def toInt? (x : Binary64) : Option Int :=
  if x.isFinite ∧ x.magnitude.1 % x.magnitude.2 = 0 then some x.truncate else none

def divideToEven (num den : Nat) : Nat :=
  let quotient := num / den
  let twice := 2 * (num % den)
  if twice < den then quotient
  else if den < twice then quotient + 1
  else quotient + quotient % 2

def scale (num den : Nat) (shift : Int) : Nat × Nat :=
  (num * Nat.pow 2 shift.toNat, den * Nat.pow 2 (-shift).toNat)

def infinityBits : Nat := 2047 * leadingBit

def nearestBits (num den : Nat) : Nat :=
  if num = 0 then 0
  else
    let estimate : Int := (num.log2 : Int) - den.log2 - 53
    let atEstimate := scale num den (-estimate)
    let normal := if atEstimate.1 < 2 * leadingBit * atEstimate.2 then estimate else estimate + 1
    let exponent := max normal (-1074)
    let scaled := scale num den (-exponent)
    min infinityBits ((exponent + 1074).toNat * leadingBit + divideToEven scaled.1 scaled.2)

def ofBits (negative : Bool) (bits : Nat) : Binary64 :=
  ⟨UInt64.ofNat (if negative then bits + signBit else bits)⟩

def infinity (negative : Bool) : Binary64 :=
  ofBits negative infinityBits

def nan : Binary64 :=
  ofBits false (infinityBits + leadingBit / 2)

def ofDecimal (negative : Bool) (digits : Nat) (exponent : Int) : Binary64 :=
  let places : Int := exponent + (Nat.toDigits 10 digits).length
  -- so far from one the answer is zero or infinity, whatever the digits
  if digits = 0 ∨ places < -400 then ofBits negative 0
  else if 400 < places then infinity negative
  else ofBits negative (nearestBits (digits * Nat.pow 10 exponent.toNat) (Nat.pow 10 (-exponent).toNat))

end Binary64

end TypeEquations
