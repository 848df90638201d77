/-
# Filled-in forms

Data from outside is read like a form: every field is checked against what it
should hold, and all fields that do not fit are reported together, each with
its place. Fields are checked in the order in which a form declares them.
-/

import FlowDesk.Value.Basic

namespace FlowDesk

/-- One level of a place inside data. -/
inductive Place where
  | field (name : String)
  | item (index : Nat)
  deriving DecidableEq

namespace Place

/-- One level of a place as text. -/
def text : Place → String
  | .field name => name
  | .item index => toString index

/-- One level of a place as data. -/
def value : Place → Value
  | .field name => .text name
  | .item index => .int index

end Place

/-- What does not fit. -/
inductive Mismatch where
  | missing
  | unexpected
  | notText
  | notWhole
  | fractional
  | notFinite
  | unreadableWhole
  | wholeTooLarge
  | below (least : Int)
  | above (greatest : Int)
  | notTruth
  | unreadableTruth
  | notNumber
  | unreadableNumber
  | notList
  | notObject
  | notRecord (record : String)
  | noFields
  | noChoice (choices : List String)
  | noTag (tagField : String)
  | unknownTag (tag tagField : String) (tags : List String)
  deriving DecidableEq

namespace Mismatch

/-- The short code of a mismatch. -/
def code : Mismatch → String
  | .missing => "missing"
  | .unexpected => "extra_forbidden"
  | .notText => "string_type"
  | .notWhole => "int_type"
  | .fractional => "int_from_float"
  | .notFinite => "finite_number"
  | .unreadableWhole => "int_parsing"
  | .wholeTooLarge => "int_parsing_size"
  | .below _ => "greater_than_equal"
  | .above _ => "less_than_equal"
  | .notTruth => "bool_type"
  | .unreadableTruth => "bool_parsing"
  | .notNumber => "float_type"
  | .unreadableNumber => "float_parsing"
  | .notList => "list_type"
  | .notObject => "dict_type"
  | .notRecord _ => "model_type"
  | .noFields => "model_attributes_type"
  | .noChoice _ => "literal_error"
  | .noTag _ => "union_tag_not_found"
  | .unknownTag .. => "union_tag_invalid"

/-- A text between single quotes. -/
def inQuotes (s : String) : String := "\x27" ++ s ++ "\x27"

/-- Choices in a sentence: commas between them, and a word before the last. -/
def alternatives : List String → String
  | [] => ""
  | [last] => inQuotes last
  | [first, last] => inQuotes first ++ " or " ++ inQuotes last
  | first :: rest => inQuotes first ++ ", " ++ alternatives rest

/-- The sentence that explains a mismatch. -/
def message : Mismatch → String
  | .missing => "Field required"
  | .unexpected => "Extra inputs are not permitted"
  | .notText => "Input should be a valid string"
  | .notWhole => "Input should be a valid integer"
  | .fractional => "Input should be a valid integer, got a number with a fractional part"
  | .notFinite => "Input should be a finite number"
  | .unreadableWhole => "Input should be a valid integer, unable to parse string as an integer"
  | .wholeTooLarge => "Unable to parse input string as an integer, exceeded maximum size"
  | .below least => s!"Input should be greater than or equal to {least}"
  | .above greatest => s!"Input should be less than or equal to {greatest}"
  | .notTruth => "Input should be a valid boolean"
  | .unreadableTruth => "Input should be a valid boolean, unable to interpret input"
  | .notNumber => "Input should be a valid number"
  | .unreadableNumber => "Input should be a valid number, unable to parse string as a number"
  | .notList => "Input should be a valid list"
  | .notObject => "Input should be a valid dictionary"
  | .notRecord record => s!"Input should be a valid dictionary or instance of {record}"
  | .noFields => "Input should be a valid dictionary or object to extract fields from"
  | .noChoice choices => "Input should be " ++ alternatives choices
  | .noTag tagField => "Unable to extract tag using discriminator " ++ inQuotes tagField
  | .unknownTag tag tagField tags =>
    "Input tag " ++ inQuotes tag ++ " found using " ++ inQuotes tagField ++
      " does not match any of the expected tags: " ++ ", ".intercalate (tags.map inQuotes)

end Mismatch

/-- A mismatch, where it was found, and the data found there. -/
structure Problem where
  place : List Place
  mismatch : Mismatch
  found : Value

namespace Problem

/-- The place of a problem as text, its levels joined by dots. -/
def placeText (problem : Problem) : String :=
  ".".intercalate (problem.place.map Place.text)

/-- The fields that report a problem inside a larger piece of data. -/
def report (outer : List Place) (problem : Problem) : Fields :=
  [ ("type", .text problem.mismatch.code),
    ("loc", .list ((outer ++ problem.place).map Place.value)),
    ("msg", .text problem.mismatch.message) ]

end Problem

/-- The outcome of checking data: what it holds, or everything that is wrong. -/
inductive Checked (α : Type) where
  | valid (value : α)
  | invalid (problems : List Problem)

namespace Checked

variable {α β : Type}

/-- One mismatch in a piece of data. -/
def mismatch (m : Mismatch) (found : Value) : Checked α :=
  .invalid [⟨[], m, found⟩]

/-- The problems found; none when the data is valid. -/
def problems : Checked α → List Problem
  | .valid _ => []
  | .invalid problems => problems

/-- The value of valid data. -/
def value? : Checked α → Option α
  | .valid value => some value
  | .invalid _ => none

/-- Place problems inside a larger piece of data. -/
def within (place : Place) : Checked α → Checked α
  | .valid value => .valid value
  | .invalid problems =>
    .invalid (problems.map fun problem => { problem with place := place :: problem.place })

/-- Change the value of valid data. -/
def map (f : α → β) : Checked α → Checked β
  | .valid value => .valid (f value)
  | .invalid problems => .invalid problems

/-- Combine two checks, keeping the problems of both. -/
def both (f : Checked (α → β)) (x : Checked α) : Checked β :=
  match f, x with
  | .valid f, .valid x => .valid (f x)
  | f, x => .invalid (f.problems ++ x.problems)

instance : Functor Checked := ⟨map, fun a => map fun _ => a⟩

instance : Applicative Checked where
  pure := .valid
  seq f x := both f (x ())

/-- Add a further check of a value that is valid so far. -/
def andThen (x : Checked α) (next : α → Checked β) : Checked β :=
  match x with
  | .valid value => next value
  | .invalid problems => .invalid problems

/-- Check items one by one, each at its index. -/
def items (check : Value → Checked α) (index : Nat) : List Value → Checked (List α)
  | [] => .valid []
  | v :: rest =>
    (List.cons <$> (check v).within (.item index)) <*> items check (index + 1) rest

/-- Check entries one by one, each under its name. -/
def entries (check : Value → Checked α) : Fields → Checked (Table α)
  | [] => .valid []
  | (name, v) :: rest =>
    ((fun value rest => (name, value) :: rest) <$> (check v).within (.field name)) <*>
      entries check rest

/-- A field that must be there. -/
def required (fields : Fields) (name : String) (check : Value → Checked α) : Checked α :=
  (match fields.at? name with
    | some v => check v
    | none => mismatch .missing (.object fields)).within (.field name)

/-- A field that takes a default when it is absent. -/
def optional (fields : Fields) (name : String) (default : α) (check : Value → Checked α) :
    Checked α :=
  match fields.at? name with
  | some v => (check v).within (.field name)
  | none => .valid default

end Checked

end FlowDesk
