/-!
# Letter case

Case maps as far as they matter for words in ASCII.
-/

namespace TypeEquations.Text

/-- The upper-case form of a character as far as it is ASCII. Any other character stays, since its
upper-case form is no ASCII text either. -/
def capital (c : Char) : List Char :=
  match c.toNat with
  | 0xDF => ['S', 'S']
  | 0x131 => ['I']
  | 0x17F => ['S']
  | 0xFB00 => ['F', 'F']
  | 0xFB01 => ['F', 'I']
  | 0xFB02 => ['F', 'L']
  | 0xFB03 => ['F', 'F', 'I']
  | 0xFB04 => ['F', 'F', 'L']
  | 0xFB05 => ['S', 'T']
  | 0xFB06 => ['S', 'T']
  | _ => [c.toUpper]

def capitals (text : List Char) : List Char :=
  text.flatMap capital

/-- Lower case of the ASCII letters. No other character has a lower-case form among the letters of the
words it is compared with. -/
def lower (text : List Char) : List Char :=
  text.map Char.toLower

end TypeEquations.Text
