import TypeEquations.Text.Blank

/-!
# Whole numbers in text

The ways in which a user may write a natural number.
-/

namespace TypeEquations.Text

def digitLimit : Nat := 4300

def groupedDigits? (text : List Char) : Option Nat :=
  let groups := split '_' text
  let digits := groups.flatten
  if (groups.all fun group => !group.isEmpty && group.all Char.isDigit) && digits.length ≤ digitLimit then
    some (Nat.ofDigitChars 10 digits 0)
  else none

def withoutFraction (text : List Char) : List Char :=
  match cut? '.' text with
  | some (whole, '0' :: fraction) => if fraction.all (· = '0') then whole else text
  | _ => text

/-- The text without zeros in front of another digit. Any underscores may stand among these zeros. -/
def withoutLeadingZeros (text : List Char) : List Char :=
  match text.head?, text.dropWhile fun c => c = '0' || c = '_' with
  | some '0', c :: rest => if c.isDigit then c :: rest else text
  | _, _ => text

def withoutPlus : List Char → List Char
  | '+' :: rest => rest
  | text => text

/-- A natural number: white space around it, a plus sign, leading zeros, underscores between digits and
a fraction of zeros are allowed. -/
def wholeNumber? (text : String) : Option Nat :=
  let number := withoutPlus (trim isWhiteSpace text.toList)
  groupedDigits? (withoutFraction (withoutLeadingZeros number))

end TypeEquations.Text
