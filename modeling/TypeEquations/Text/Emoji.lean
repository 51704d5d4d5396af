import TypeEquations.Text.Blank
import TypeEquations.Text.Emoji.Names

/-!
# Emoji in text

A name between two colons stands for its emoji.
-/

namespace TypeEquations.Text

namespace Emoji

def words (text : List Char) : List (List Char) :=
  (split ' ' (text.map fun c => if isBlank c then ' ' else c)).filter (!·.isEmpty)

def pairs : List (List Char) → List (List Char × List Char)
  | name :: emoji :: rest => (name, emoji) :: pairs rest
  | _ => []

/-- The lower case of the letters that occur in names: those of Latin-1, and two signs that are letters
of it under other numbers. -/
def lowerLetter (c : Char) : Char :=
  let n := c.toNat
  if 0xC0 ≤ n ∧ n ≤ 0xDE ∧ n ≠ 0xD7 then Char.ofNat (n + 0x20)
  else if n = 0x212A then 'k'
  else if n = 0x212B then 'å'
  else c.toLower

def find? (name : List Char) : Option (List Char) :=
  (pairs (words names.toList)).lookup (name.map lowerLetter)

def withoutEnding? (ending : String) (text : List Char) : Option (List Char) :=
  if ending.toList.isSuffixOf text then some (text.take (text.length - ending.length)) else none

def ofCode? (code : List Char) : Option (List Char) :=
  match withoutEnding? "-emoji" code, withoutEnding? "-text" code with
  | some name, _ => (find? name).map (· ++ ['\ufe0f'])
  | none, some name => (find? name).map (· ++ ['\ufe0e'])
  | none, none => find? code

/-- Puts in the emoji, given the parts of a text behind its colons. A part with a blank in it is no name,
and one colon does not close two names. -/
def replaceParts : List (List Char) → List Char
  | [] => []
  | [last] => ':' :: last
  | code :: next :: rest =>
    if code.any isBlank then ':' :: code ++ replaceParts (next :: rest)
    else (ofCode? code).getD (':' :: code ++ [':']) ++ next ++ replaceParts rest

end Emoji

def withEmoji (text : List Char) : List Char :=
  match split ':' text with
  | first :: parts => first ++ Emoji.replaceParts parts
  | [] => []

end TypeEquations.Text
