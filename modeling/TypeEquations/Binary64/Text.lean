import TypeEquations.Binary64.Shortest

/-!
# Doubles as text

The digits are the shortest that read back. Here stand the places where the point and the exponent go.
-/

namespace TypeEquations.Binary64

def zeros (count : Int) : List Char :=
  List.replicate count.toNat '0'

def positional (digits : List Char) (point : Int) : List Char :=
  if point ≤ 0 then ['0', '.'] ++ zeros (-point) ++ digits
  else if digits.length ≤ point then digits ++ zeros (point - digits.length) ++ ['.', '0']
  else digits.take point.toNat ++ '.' :: digits.drop point.toNat

def scientific (digits : List Char) (exponent : Int) : List Char :=
  let exponentDigits := Nat.toDigits 10 exponent.natAbs
  digits.take 1 ++ (if digits.length = 1 then [] else '.' :: digits.drop 1) ++
    ['e', if exponent < 0 then '-' else '+'] ++ zeros (2 - exponentDigits.length) ++ exponentDigits

def withoutFinalZeros (digits : List Char) : List Char :=
  let digits := (digits.reverse.dropWhile (· = '0')).reverse
  if digits.isEmpty then ['0'] else digits

/-- Positional from `1e-4` up to `1e16`. -/
def Decimal.spell (x : Decimal) : String :=
  let digits := Nat.toDigits 10 x.digits
  let point : Int := x.exponent + digits.length
  String.ofList <|
    if -4 < point ∧ point ≤ 16 then positional (withoutFinalZeros digits) point
    else scientific (withoutFinalZeros digits) (point - 1)

def spell (x : Binary64) : String :=
  if x.isNaN then "nan"
  else
    let size := if x.isFinite then x.shortest.spell else "inf"
    if x.isNegative then "-" ++ size else size

end TypeEquations.Binary64
