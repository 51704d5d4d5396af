import TypeEquations.Json.Inspect

/-!
# Templates

Texts with places for arguments.
-/

namespace TypeEquations.Text

inductive TemplateError where
  | unusedArguments
  | missingArguments
  | notANumber (kind : String)
  | infinite
  | undefined
  | incomplete
  | unknownDirective (directive : Char)
deriving DecidableEq

def TemplateError.message : TemplateError → String
  | unusedArguments => "not all arguments converted during string formatting"
  | missingArguments => "not enough arguments for format string"
  | notANumber kind => "%d format: a real number is required, not " ++ kind
  | infinite => "cannot convert float infinity to integer"
  | undefined => "cannot convert float NaN to integer"
  | incomplete => "incomplete format"
  | unknownDirective directive => "unsupported format character " ++ quote directive.toString

def decimal (value : Json) : Except TemplateError String :=
  match value with
  | .bool value => .ok (if value then "1" else "0")
  | .int value => .ok (toString value)
  | .float value =>
    if value.isNaN then .error .undefined
    else if value.isFinite then .ok (toString value.truncate)
    else .error .infinite
  | other => .error (.notANumber other.kind)

def mayStayUnused : List Json → Bool
  | [.obj (_ :: _)] => true
  | _ => false

/-- Puts the arguments in order in the places of `%s` and `%d`; `%%` is a percent sign. -/
def fill (unused : Bool) : List Char → List Json → Except TemplateError (List Char)
  | [], [] => .ok []
  | [], _ :: _ => if unused then .ok [] else .error .unusedArguments
  | '%' :: '%' :: rest, arguments => (fill unused rest arguments).map ('%' :: ·)
  | '%' :: 's' :: rest, argument :: arguments =>
    (fill unused rest arguments).map (argument.display.toList ++ ·)
  | '%' :: 'd' :: rest, argument :: arguments => do
    let text ← decimal argument
    let rest ← fill unused rest arguments
    return text.toList ++ rest
  | ['%'], _ => .error .incomplete
  | '%' :: directive :: _, [] =>
    .error (if directive = 's' ∨ directive = 'd' then .missingArguments else .unknownDirective directive)
  | '%' :: directive :: _, _ => .error (.unknownDirective directive)
  | c :: rest, arguments => (fill unused rest arguments).map (c :: ·)

def fillTemplate (template : String) (arguments : List Json) : Except TemplateError String :=
  -- where nothing is to be filled in, even `%%` stays
  if arguments.isEmpty then .ok template
  else (fill (mayStayUnused arguments) template.toList arguments).map String.ofList

end TypeEquations.Text
