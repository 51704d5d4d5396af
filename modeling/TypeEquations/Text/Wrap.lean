import TypeEquations.Text.Blank

/-!
# Lines of bounded width

A text is broken between words, and within a word that is wider than a line.
-/

namespace TypeEquations.Text

structure Word where
  letters : List Char
  blanks : List Char

def Word.text (word : Word) : List Char :=
  word.letters ++ word.blanks

def wordsOf : List Char → List Word
  | [] => []
  | c :: rest =>
    if isBlank c then
      match wordsOf rest with
      | ⟨[], blanks⟩ :: words => ⟨[], c :: blanks⟩ :: words
      | words => ⟨[], [c]⟩ :: words
    else
      match wordsOf rest with
      | word :: words => { word with letters := c :: word.letters } :: words
      | [] => [⟨[c], []⟩]

def chop (width : Nat) : Nat → List Char → List (List Char)
  | 0, _ => []
  | fuel + 1, text =>
    if text.length ≤ width then [text] else text.take width :: chop width fuel (text.drop width)

/-- Adds a word to the lines so far, of which the current one is given apart: to the current line if it
fits, in pieces if no line holds it, and otherwise to a new line. -/
def addWord (width : Nat) (lines : List (List Char) × List Char) (word : Word) :
    List (List Char) × List Char :=
  let (closed, current) := lines
  if current.length + word.letters.length ≤ width then (closed, current ++ word.text)
  else
    let closed := if current.isEmpty then closed else closed ++ [current]
    if word.letters.length ≤ width then (closed, word.text)
    else
      let pieces := chop width word.text.length word.text
      (closed ++ pieces.dropLast, pieces.getLastD [])

def wrap (width : Nat) (text : List Char) : List (List Char) :=
  let (closed, current) := (wordsOf text).foldl (addWord width) ([], [])
  (closed ++ [current]).map (trimEnd isBlank)

end TypeEquations.Text
