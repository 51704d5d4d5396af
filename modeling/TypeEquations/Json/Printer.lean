import TypeEquations.Json.Inspect

/-!
# Printing JSON

One line of ASCII for each value.
-/

namespace TypeEquations.Json

def escapeUnit (unit : Nat) : List Char :=
  '\\' :: 'u' :: Text.hexadecimal 4 unit

/-- ASCII for any character; beyond the basic plane a pair of surrogates. -/
def printChar (c : Char) : List Char :=
  if c = '"' ∨ c = '\\' then ['\\', c]
  else if c = '\n' then ['\\', 'n']
  else if c = '\r' then ['\\', 'r']
  else if c = '\t' then ['\\', 't']
  else if c = '\x0c' then ['\\', 'f']
  else if c = '\x08' then ['\\', 'b']
  else if ' ' ≤ c ∧ c ≤ '~' then [c]
  else if c.toNat < 0x10000 then escapeUnit c.toNat
  else
    let offset := c.toNat - 0x10000
    escapeUnit (0xD800 + offset / 0x400) ++ escapeUnit (0xDC00 + offset % 0x400)

def printString (text : String) : String :=
  String.ofList ('"' :: text.toList.flatMap printChar ++ ['"'])

def printFloat (value : Binary64) : String :=
  if value.isNaN then "NaN"
  else if value.isFinite then value.spell
  else if value.isNegative then "-Infinity"
  else "Infinity"

mutual

def print : Json → String
  | null => "null"
  | bool value => if value then "true" else "false"
  | int value => toString value
  | float value => printFloat value
  | str text => printString text
  | arr items => "[" ++ ", ".intercalate (printItems items) ++ "]"
  | obj members => "\x7b" ++ ", ".intercalate (printMembers members) ++ "\x7d"

def printItems : List Json → List String
  | [] => []
  | item :: rest => item.print :: printItems rest

def printMembers : List (String × Json) → List String
  | [] => []
  | (key, value) :: rest => (printString key ++ ": " ++ value.print) :: printMembers rest

end

end TypeEquations.Json
