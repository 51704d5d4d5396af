import TypeEquations.Json.Printer
import TypeEquations.Json.Reader
import TypeEquations.Wire.Equation

/-!
# Documents

Types and equations as texts in JSON, and the two ways in which a text can fail to be one.
-/

namespace TypeEquations.Wire

inductive Subject where
  | type
  | equation
  | equations
deriving DecidableEq

inductive Fault where
  | text
  | form
deriving DecidableEq

structure DecodeError where
  subject : Subject
  fault : Fault
deriving DecidableEq

def DecodeError.message (error : DecodeError) : String :=
  match error.subject with
  | .type => "Invalid type expression"
  | .equation => "Invalid rule"
  | .equations => "Invalid rule list"

def decode (subject : Subject) (ofJson? : Json → Option α) (json : Json) : Except DecodeError α :=
  match ofJson? json with
  | some value => .ok value
  | none => .error ⟨subject, .form⟩

def decodeType : Json → Except DecodeError Ty :=
  decode .type Ty.ofJson?

def decodeEquation : Json → Except DecodeError Equation :=
  decode .equation Equation.ofJson?

def decodeEquations : Json → Except DecodeError (List Equation) :=
  decode .equations equationsOfJson?

inductive Document where
  | text (source : String)
  | bytes (source : ByteArray)

def Document.json? : Document → Option Json
  | text source => Json.read source
  | bytes source => (String.fromUTF8? source).bind Json.read

def readType (document : Document) : Except DecodeError Ty :=
  match document.json? with
  | some json => decodeType json
  | none => .error ⟨.type, .text⟩

def readEquations (document : Document) : Except DecodeError (List Equation) :=
  match document.json? with
  | some json => decodeEquations json
  | none => .error ⟨.equations, .text⟩

def writeType (type : Ty) : String :=
  type.toJson.print

def writeEquations (equations : List Equation) : String :=
  (equationsToJson equations).print

end TypeEquations.Wire
