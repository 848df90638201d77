/-
# Command lines

How the words of a command line are understood. A word that begins with a
hyphen is an option, unless it is a lone hyphen, a negative number or holds a
space; options may be cut short as long as they stay unambiguous, and may
carry their value after an equals sign. After two hyphens every word is taken
as it is.
-/

import FlowDesk.Number.Numeral

namespace FlowDesk.CommandLine

/-- An option of a command. -/
structure Switch where
  name : String
  takesValue : Bool
  deriving DecidableEq

/-- How a word is understood. -/
inductive Word where
  /-- A word that is taken as it is. -/
  | plain (text : String)
  /-- The two hyphens that end options. -/
  | terminator
  /-- An option, perhaps with a value attached. -/
  | option (option : Switch) (attached : Option String)
  /-- The short form of the request for help, with what is attached to it. -/
  | help (attached : Option String)
  /-- An option that the command does not have. -/
  | unknown
  deriving DecidableEq

/-- Why a command line is not carried out. -/
inductive Stop where
  | help
  | usage
  deriving DecidableEq

/-- The long form of the request for help. -/
def helpOption : Switch := ⟨"--help", false⟩

/-- Cut a text at its first equals sign. -/
def cutAtEquals (s : String) : String × Option String :=
  let cs := s.toList
  match cs.dropWhile (· ≠ '=') with
  | [] => (s, none)
  | _ :: value => (String.ofList (cs.takeWhile (· ≠ '=')), some (String.ofList value))

/-- Whether a text begins with another. -/
def beginsWith (s start : String) : Bool := start.toList.isPrefixOf s.toList

/-- Whether a character is a decimal digit of some script. -/
def isDigit (c : Char) : Bool := (Text.digitValue? c).isSome

/-- Whether a word looks like a negative number; a line may end after it. -/
def isNegativeNumber : List Char → Bool
  | '-' :: rest =>
    let body := if rest.getLast? = some '\n' then rest.dropLast else rest
    match body.dropWhile isDigit with
    | [] => !body.isEmpty
    | '.' :: fraction => !fraction.isEmpty && fraction.all isDigit
    | _ => false
  | _ => false

/-- Understand a word, given the options of a command. -/
def understand (options : List Switch) (s : String) : Except Stop Word :=
  let known := helpOption :: options
  let cs := s.toList
  let (name, attached) := cutAtEquals s
  let otherwise : Word :=
    if isNegativeNumber cs || cs.contains ' ' then .plain s else .unknown
  if cs.head? ≠ some '-' || cs.length = 1 then .ok (.plain s)
  else match known.find? fun option => option.name == name with
  | some option => .ok (.option option attached)
  | none =>
    if cs[1]? = some '-' then
      match known.filter fun option => beginsWith option.name name with
      | [option] => .ok (.option option attached)
      | [] => .ok otherwise
      | _ => .error .usage
    else if name = "-h" then .ok (.help attached)
    else if cs[1]? = some 'h' then .ok (.help (some (String.ofList (cs.drop 2))))
    else .ok otherwise

/-- Understand the words of a command. -/
def understandAll (options : List Switch) : List String → Except Stop (List Word)
  | [] => .ok []
  | "--" :: rest => .ok (.terminator :: rest.map .plain)
  | word :: rest => do
    let first ← understand options word
    let others ← understandAll options rest
    return first :: others

/-- What a command was given: the plain word it wants, and its options, the
last one first. -/
structure Given where
  wanted : Bool
  positional : Option String
  options : List (String × String)
  extra : Bool

/-- Whether everything attached to the short request for help asks for help. -/
def onlyHelp (attached : Option String) : Bool :=
  match attached with
  | none => true
  | some s => s ≠ "" && s.toList.all (· = 'h')

/-- Take a plain word: the one that is wanted, or one too many. -/
def Given.take (given : Given) (word : String) : Given :=
  if given.wanted && given.positional.isNone then { given with positional := some word }
  else { given with extra := true }

/-- Go through the words of a command. `check` refuses values. Two hyphens go
with the plain word that is wanted, and are one word too many elsewhere. -/
def collect (check : String → String → Bool) : Given → List Word → Except Stop Given
  | given, [] => .ok given
  | given, .plain word :: .terminator :: rest =>
    if given.wanted && given.positional.isNone then collect check (given.take word) rest
    else collect check { given with extra := true } rest
  | given, .plain word :: rest => collect check (given.take word) rest
  | given, .terminator :: .plain word :: rest =>
    if given.wanted && given.positional.isNone then collect check (given.take word) rest
    else collect check { given with extra := true } rest
  | given, .terminator :: rest => collect check { given with extra := true } rest
  | _, .help attached :: _ => .error (if onlyHelp attached then .help else .usage)
  | given, .unknown :: rest => collect check { given with extra := true } rest
  | given, .option option attached :: rest =>
    if option.takesValue then
      match attached, rest with
      | some value, rest =>
        if check option.name value then
          collect check { given with options := (option.name, value) :: given.options } rest
        else .error .usage
      | none, .plain value :: rest =>
        if check option.name value then
          collect check { given with options := (option.name, value) :: given.options } rest
        else .error .usage
      | none, _ => .error .usage
    else if attached.isSome then .error .usage
    else if option = helpOption then .error .help
    else collect check { given with options := (option.name, "") :: given.options } rest

/-- What was given to a command that wants a plain word, or wants none. -/
def parse (options : List Switch) (wanted : Bool) (check : String → String → Bool)
    (words : List String) : Except Stop Given := do
  let understood ← understandAll options words
  let given ← collect check ⟨wanted, none, [], false⟩ understood
  if given.extra || (wanted && given.positional.isNone) then .error .usage
  else return given

end FlowDesk.CommandLine
