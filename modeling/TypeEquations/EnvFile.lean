import TypeEquations.Text.Blank

/-!
# Environment files

Bindings of names to values, one a line, with quotation marks, comments and references. Lines of any
other form are passed over and told by their numbers.
-/

namespace TypeEquations

namespace EnvFile

structure Binding where
  name : String
  value : Option String
deriving DecidableEq

structure Contents where
  bindings : List Binding
  -- the lines on which statements begin that cannot be read
  unreadable : List Nat
deriving DecidableEq

def complaint (line : Nat) : String :=
  "python-dotenv could not parse statement starting at line " ++ toString line

def unifyLineEnds : List Char → List Char
  | '\r' :: '\n' :: rest => '\n' :: unifyLineEnds rest
  | '\r' :: rest => '\n' :: unifyLineEnds rest
  | c :: rest => c :: unifyLineEnds rest
  | [] => []

def withoutByteOrderMark : List Char → List Char
  | '\ufeff' :: rest => rest
  | text => text

def isLineEnd (c : Char) : Bool :=
  c = '\n'

def isInlineBlank (c : Char) : Bool :=
  Text.isBlank c && !isLineEnd c

def skipInline (text : List Char) : List Char :=
  text.dropWhile isInlineBlank

def skipExport : List Char → List Char
  | 'e' :: 'x' :: 'p' :: 'o' :: 'r' :: 't' :: c :: rest =>
    if isInlineBlank c then skipInline rest else 'e' :: 'x' :: 'p' :: 'o' :: 'r' :: 't' :: c :: rest
  | text => text

def readName : List Char → Option (List Char × List Char)
  | '\'' :: rest => do
    let (name, rest) ← Text.cut? '\'' rest
    if name.isEmpty then none else return (name, rest)
  | text =>
    let inName := fun c => c ≠ '=' && c ≠ '#' && !Text.isBlank c
    let name := text.takeWhile inName
    if name.isEmpty then none else some (name, text.dropWhile inName)

def cutQuoted? (mark : Char) : List Char → Option (List Char × List Char)
  -- a backslash takes the next character along, even a quotation mark
  | '\\' :: c :: rest =>
    (cutQuoted? mark rest).map fun (before, behind) => ('\\' :: c :: before, behind)
  | c :: rest =>
    if c = mark then some ([], rest)
    else (cutQuoted? mark rest).map fun (before, behind) => (c :: before, behind)
  | [] => none

def controlLetter? (c : Char) : Option Char :=
  [('a', '\x07'), ('b', '\x08'), ('f', '\x0c'), ('n', '\n'), ('r', '\r'), ('t', '\t'),
    ('v', '\x0b')].lookup c

def unescapeSingle : List Char → List Char
  | '\\' :: c :: rest =>
    if c = '\\' ∨ c = '\'' then c :: unescapeSingle rest else '\\' :: unescapeSingle (c :: rest)
  | c :: rest => c :: unescapeSingle rest
  | [] => []

def unescapeDouble : List Char → List Char
  | '\\' :: c :: rest =>
    if c = '\\' ∨ c = '\'' ∨ c = '"' then c :: unescapeDouble rest
    else
      match controlLetter? c with
      | some control => control :: unescapeDouble rest
      | none => '\\' :: unescapeDouble (c :: rest)
  | c :: rest => c :: unescapeDouble rest
  | [] => []

def withoutComment : List Char → List Char
  | c :: rest =>
    if Text.isBlank c ∧ (rest.dropWhile Text.isBlank).head? = some '#' then []
    else c :: withoutComment rest
  | [] => []

/-- A value from behind the equals sign: in quotation marks, or to the end of the line. Blanks before it
are passed over, but they do begin a comment. -/
def readValue (text : List Char) : Option (List Char × List Char) :=
  match skipInline text with
  | '\'' :: rest =>
    (cutQuoted? '\'' rest).map fun (value, rest) => (unescapeSingle value, rest)
  | '"' :: rest =>
    (cutQuoted? '"' rest).map fun (value, rest) => (unescapeDouble value, rest)
  | _ =>
    let line := text.takeWhile fun c => !isLineEnd c
    some (Text.trim Text.isBlank (withoutComment line), text.dropWhile fun c => !isLineEnd c)

def skipLine (text : List Char) : List Char :=
  (text.dropWhile fun c => !isLineEnd c).drop 1

def readLineEnd (text : List Char) : Except (List Char) (List Char) :=
  match skipInline text with
  | [] => .ok []
  | c :: rest => if isLineEnd c ∨ c = '#' then .ok (skipLine (c :: rest)) else .error (c :: rest)

def orStop (text : List Char) (outcome : Option α) : Except (List Char) α :=
  match outcome with
  | some value => .ok value
  | none => .error text

def readStatement (text : List Char) : Except (List Char) (Option Binding × List Char) := do
  let text := skipExport text
  if text.head? = some '#' then
    return (none, ← readLineEnd text)
  else
    let (name, rest) ← orStop text (readName text)
    match skipInline rest with
    | '=' :: rest =>
      let (value, rest) ← orStop rest (readValue rest)
      return (some ⟨String.ofList name, some (String.ofList value)⟩, ← readLineEnd rest)
    | rest => return (some ⟨String.ofList name, none⟩, ← readLineEnd rest)

/-- Statements in order, in a file of `lines` line ends. Behind a statement of another form reading goes
on with the next line. Each round takes a character off the text at least. -/
def readStatements (lines : Nat) : Nat → List Char → Contents
  | 0, _ => ⟨[], []⟩
  | fuel + 1, text =>
    match text.dropWhile Text.isBlank with
    | [] => ⟨[], []⟩
    | c :: rest =>
      match readStatement (c :: rest) with
      | .ok (binding, rest) =>
        let contents := readStatements lines fuel rest
        { contents with bindings := binding.toList ++ contents.bindings }
      | .error stopped =>
        let contents := readStatements lines fuel (skipLine stopped)
        { contents with unreadable := (lines + 1 - text.count '\n') :: contents.unreadable }

def readReference (text : List Char) : Option (List Char × List Char × List Char) :=
  let name := text.takeWhile fun c => c ≠ '}' && c ≠ ':'
  match text.dropWhile fun c => c ≠ '}' && c ≠ ':' with
  | '}' :: rest => some (name, [], rest)
  | ':' :: '-' :: rest => (Text.cut? '}' rest).map fun (value, rest) => (name, value, rest)
  | _ => none

def expand (value? : String → Option String) : Nat → List Char → List Char
  | 0, text => text
  | _ + 1, [] => []
  | fuel + 1, '$' :: '{' :: rest =>
    match readReference rest with
    | some (name, default, rest) =>
      ((value? (String.ofList name)).map (·.toList)).getD default ++ expand value? fuel rest
    | none => '$' :: expand value? fuel ('{' :: rest)
  | fuel + 1, c :: rest => c :: expand value? fuel rest

def expandIn (environment : List (String × String)) (earlier : List Binding) (value : String) : String :=
  let value? := fun name =>
    match earlier.reverse.find? (·.name = name) with
    | some binding => some (binding.value.getD "")
    | none => environment.lookup name
  String.ofList (expand value? value.length value.toList)

/-- Values may refer to earlier bindings and to the environment. -/
def expandAll (environment : List (String × String)) (bindings : List Binding) : List Binding :=
  bindings.foldl (fun earlier binding =>
    earlier ++ [{ binding with value := binding.value.map (expandIn environment earlier) }]) []

def read (environment : List (String × String)) (text : String) : Contents :=
  let text := unifyLineEnds (withoutByteOrderMark text.toList)
  let contents := readStatements (text.count '\n') (text.length + 1) text
  { contents with bindings := expandAll environment contents.bindings }

end EnvFile

end TypeEquations
