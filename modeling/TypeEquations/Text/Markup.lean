import TypeEquations.Text.Emoji

/-!
# Marked-up text

How a text in square brackets comes out of a console that reads markup, when the text was not meant as
markup: what could be a tag stands as it is, and elsewhere a backslash before a bracket is taken away.
-/

namespace TypeEquations.Text

namespace Markup

def beginsTag (c : Char) : Bool :=
  c.isLower || c = '#' || c = '/' || c = '@'

def tag? : List Char → Option (List Char × List Char)
  | c :: rest =>
    if beginsTag c then
      (cut? ']' rest).map fun (inside, behind) => ('[' :: c :: inside ++ [']'], behind)
    else none
  | [] => none

def unescapeBrackets : List Char → List Char
  | '\\' :: '[' :: rest => '[' :: unescapeBrackets rest
  | c :: rest => c :: unescapeBrackets rest
  | [] => []

def showPlain (text : List Char) : List Char :=
  withEmoji (unescapeBrackets text)

def isBackslash (c : Char) : Bool :=
  c = '\\'

/-- Shows a text that is `plain` up to a bracket, given the parts behind its opening brackets. Backslashes
before a tag are kept. -/
def showParts (plain : List Char) : List (List Char) → List Char
  | [] => showPlain plain
  | part :: rest =>
    match tag? part with
    | some (tag, behind) =>
      showPlain (trimEnd isBackslash plain) ++ (plain.reverse.takeWhile isBackslash) ++ withEmoji tag ++
        showParts behind rest
    | none => showParts (plain ++ '[' :: part) rest

end Markup

def shown (text : String) : String :=
  match split '[' text.toList with
  | first :: parts => String.ofList (Markup.showParts first parts)
  | [] => ""

end TypeEquations.Text
