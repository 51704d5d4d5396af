import TypeEquations.Association
import TypeEquations.Json
import TypeEquations.Text.WholeNumber

/-!
# Reading JSON

A reader by recursive descent over the characters of a text. It is strict, but for three words that
stand for numbers, and bounds how deep arrays and objects may lie inside one another.
-/

namespace TypeEquations.Json

def isBlank (c : Char) : Bool :=
  c = ' ' || c = '\t' || c = '\n' || c = '\r'

def skipBlanks (text : List Char) : List Char :=
  text.dropWhile isBlank

def afterWord? (word : String) (text : List Char) : Option (List Char) :=
  if word.toList.isPrefixOf text then some (text.drop word.length) else none

def readDigits (text : List Char) : Option (List Char × List Char) :=
  let digits := text.takeWhile Char.isDigit
  if digits.isEmpty then none else some (digits, text.dropWhile Char.isDigit)

def readWhole (text : List Char) : Option (List Char × List Char) := do
  let (digits, rest) ← readDigits text
  if digits.head? = some '0' ∧ digits.length ≠ 1 then none else return (digits, rest)

def readFraction : List Char → Option (List Char × List Char)
  | '.' :: rest => readDigits rest
  | text => some ([], text)

def readExponent : List Char → Option (Option Int × List Char)
  | c :: rest =>
    if c = 'e' ∨ c = 'E' then do
      let (sign, rest) : Int × List Char := match rest with
        | '-' :: rest => (-1, rest)
        | '+' :: rest => (1, rest)
        | _ => (1, rest)
      let (digits, rest) ← readDigits rest
      return (some (sign * Nat.ofDigitChars 10 digits 0), rest)
    else some (none, c :: rest)
  | [] => some (none, [])

def readUnsigned (negative : Bool) (text : List Char) : Option (Json × List Char) := do
  let (whole, rest) ← readWhole text
  if Text.digitLimit < whole.length then none
  let (fraction, rest) ← readFraction rest
  let (exponent, rest) ← readExponent rest
  if fraction.isEmpty ∧ exponent.isNone then
    let size : Int := Nat.ofDigitChars 10 whole 0
    return (int (if negative then -size else size), rest)
  else
    let digits := Nat.ofDigitChars 10 (whole ++ fraction) 0
    return (float (.ofDecimal negative digits (exponent.getD 0 - fraction.length)), rest)

def readNumber : List Char → Option (Json × List Char)
  | '-' :: rest =>
    match afterWord? "Infinity" rest with
    | some rest => some (float (.infinity true), rest)
    | none => readUnsigned true rest
  | text => readUnsigned false text

def words : List (String × Json) :=
  [("null", null), ("true", bool true), ("false", bool false), ("NaN", float .nan),
    ("Infinity", float (.infinity false))]

def readWord (text : List Char) : Option (Json × List Char) :=
  words.findSome? fun (word, value) => (afterWord? word text).map (value, ·)

def hexDigit? (c : Char) : Option Nat :=
  if '0' ≤ c ∧ c ≤ '9' then some (c.toNat - '0'.toNat)
  else if 'a' ≤ c ∧ c ≤ 'f' then some (c.toNat - 'a'.toNat + 10)
  else if 'A' ≤ c ∧ c ≤ 'F' then some (c.toNat - 'A'.toNat + 10)
  else none

def hexUnit? (digits : List Char) : Option Nat :=
  digits.foldlM (fun value c => (hexDigit? c).map (16 * value + ·)) 0

def escaped? (c : Char) : Option Nat :=
  match c with
  | '"' => some 0x22
  | '\\' => some 0x5c
  | '/' => some 0x2f
  | 'b' => some 0x08
  | 'f' => some 0x0c
  | 'n' => some 0x0a
  | 'r' => some 0x0d
  | 't' => some 0x09
  | _ => none

def readUnits : List Char → Option (List Nat × List Char)
  | [] => none
  | '"' :: rest => some ([], rest)
  | '\\' :: 'u' :: a :: b :: c :: d :: rest => do
    let unit ← hexUnit? [a, b, c, d]
    let (units, rest) ← readUnits rest
    return (unit :: units, rest)
  | '\\' :: c :: rest => do
    let unit ← escaped? c
    let (units, rest) ← readUnits rest
    return (unit :: units, rest)
  | c :: rest =>
    if c.toNat < 0x20 then none
    else do
      let (units, rest) ← readUnits rest
      return (c.toNat :: units, rest)

/-- Joins pairs of surrogates; a surrogate that stands alone is no character. -/
def joinUnits : List Nat → Option (List Char)
  | [] => some []
  | unit :: rest =>
    if 0xD800 ≤ unit ∧ unit < 0xDC00 then
      match rest with
      | low :: rest =>
        if 0xDC00 ≤ low ∧ low < 0xE000 then
          (joinUnits rest).map (Char.ofNat (0x10000 + 0x400 * (unit - 0xD800) + (low - 0xDC00)) :: ·)
        else none
      | [] => none
    else if 0xDC00 ≤ unit ∧ unit < 0xE000 then none
    else (joinUnits rest).map (Char.ofNat unit :: ·)

def readString (text : List Char) : Option (String × List Char) := do
  let (units, rest) ← readUnits text
  let characters ← joinUnits units
  return (String.ofList characters, rest)

mutual

/-- Reads one value, with at most `depth` arrays and objects inside one another, empty ones apart. Of
several members with one key the last counts. -/
def readValue : Nat → Nat → List Char → Option (Json × List Char)
  | 0, _, _ => none
  | fuel + 1, depth, text =>
    match skipBlanks text with
    | '"' :: rest => (readString rest).map fun (value, rest) => (str value, rest)
    | '[' :: rest =>
      match skipBlanks rest, depth with
      | ']' :: rest, _ => some (arr [], rest)
      | _, 0 => none
      | rest, depth + 1 => (readItems fuel depth rest).map fun (items, rest) => (arr items, rest)
    | '{' :: rest =>
      match skipBlanks rest, depth with
      | '}' :: rest, _ => some (obj [], rest)
      | _, 0 => none
      | rest, depth + 1 =>
        (readMembers fuel depth rest).map fun (members, rest) => (obj (putAll members), rest)
    | text => readWord text <|> readNumber text

def readItems : Nat → Nat → List Char → Option (List Json × List Char)
  | 0, _, _ => none
  | fuel + 1, depth, text => do
    let (item, rest) ← readValue fuel depth text
    match skipBlanks rest with
    | ',' :: rest =>
      let (items, rest) ← readItems fuel depth rest
      return (item :: items, rest)
    | ']' :: rest => return ([item], rest)
    | _ => none

def readMembers : Nat → Nat → List Char → Option (List (String × Json) × List Char)
  | 0, _, _ => none
  | fuel + 1, depth, text =>
    match skipBlanks text with
    | '"' :: rest => do
      let (key, rest) ← readString rest
      match skipBlanks rest with
      | ':' :: rest =>
        let (value, rest) ← readValue fuel depth rest
        match skipBlanks rest with
        | ',' :: rest =>
          let (members, rest) ← readMembers fuel depth rest
          return ((key, value) :: members, rest)
        | '}' :: rest => return ([(key, value)], rest)
        | _ => none
      | _ => none
    | _ => none

end

/-- Reads a text that holds one value. Every second call at least takes a character off the text. -/
def readWithin (depth : Nat) (text : String) : Option Json :=
  match readValue (2 * text.length + 2) depth text.toList with
  | some (value, rest) => if skipBlanks rest = [] then some value else none
  | none => none

/-- The most arrays and objects that may lie inside one another in a text, empty ones apart. -/
def nestingLimit : Nat := 200

def read (text : String) : Option Json :=
  readWithin nestingLimit text

end TypeEquations.Json
