/-!
# Blanks and parts of text

Trimming, splitting and cutting of texts, given as lists of characters.
-/

namespace TypeEquations.Text

def isWhiteSpace (c : Char) : Bool :=
  let n := c.toNat
  (9 ≤ n && n ≤ 13) || n = 0x20 || n = 0x85 || n = 0xA0 || n = 0x1680 ||
    (0x2000 ≤ n && n ≤ 0x200A) || n = 0x2028 || n = 0x2029 || n = 0x202F || n = 0x205F || n = 0x3000

/-- White space and the four information separators. -/
def isBlank (c : Char) : Bool :=
  isWhiteSpace c || (0x1C ≤ c.toNat && c.toNat ≤ 0x1F)

def trimEnd (blank : Char → Bool) (text : List Char) : List Char :=
  (text.reverse.dropWhile blank).reverse

def trim (blank : Char → Bool) (text : List Char) : List Char :=
  trimEnd blank (text.dropWhile blank)

def split (mark : Char) : List Char → List (List Char)
  | [] => [[]]
  | c :: rest =>
    if c = mark then [] :: split mark rest
    else
      match split mark rest with
      | [] => [[c]]
      | part :: parts => (c :: part) :: parts

theorem split_ne_nil (mark : Char) (text : List Char) : split mark text ≠ [] := by
  cases text with
  | nil => simp [split]
  | cons c rest =>
    by_cases heq : c = mark
    · simp [split, heq]
    · simp only [split, heq, if_false]
      split <;> simp

theorem split_append (mark : Char) (before behind : List Char) :
    split mark (before ++ mark :: behind) = split mark before ++ split mark behind := by
  induction before with
  | nil => simp [split]
  | cons c rest ih =>
    by_cases heq : c = mark
    · simp [split, heq, ih]
    · have hne := split_ne_nil mark rest
      simp only [List.cons_append, split, heq, if_false, ih]
      cases h : split mark rest with
      | nil => exact absurd h hne
      | cons part parts => simp

def cut? (mark : Char) : List Char → Option (List Char × List Char)
  | [] => none
  | c :: rest =>
    if c = mark then some ([], rest)
    else (cut? mark rest).map fun (before, behind) => (c :: before, behind)

end TypeEquations.Text
