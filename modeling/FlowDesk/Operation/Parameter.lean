/-
# Parameters

The parameters of an operation as its author declares them, and the
description of them that is handed out: the kind of each, its title, its
default, and its bounds.
-/

import FlowDesk.Value.Basic

namespace FlowDesk

/-- What a parameter holds. -/
inductive ParameterKind where
  | text
  | whole
  | truth
  deriving DecidableEq

/-- The word for a kind of parameter. -/
def ParameterKind.word : ParameterKind → String
  | .text => "string"
  | .whole => "integer"
  | .truth => "boolean"

/-- A parameter; without a default it must be given. -/
structure Parameter where
  name : String
  kind : ParameterKind
  default : Option Value
  /-- Whether null may stand in the place of a value. -/
  nullable : Bool
  bounds : Option (Int × Int)

namespace Parameter

/-- A parameter that must be given. -/
def needed (name : String) (kind : ParameterKind) : Parameter := ⟨name, kind, none, false, none⟩

/-- A parameter with a default. -/
def withDefault (name : String) (kind : ParameterKind) (default : Value) : Parameter :=
  ⟨name, kind, some default, false, none⟩

/-- A parameter that is null unless it is given. -/
def orNull (name : String) (kind : ParameterKind) : Parameter :=
  ⟨name, kind, some .null, true, none⟩

/-- Begin every word of a name with a capital, a low line counting as a space. -/
def titleFrom (start : Bool) : List Char → List Char
  | [] => []
  | c :: rest =>
    if c = '_' then ' ' :: titleFrom true rest
    else (if start then c.toUpper else c) :: titleFrom false rest

/-- The title of a parameter. -/
def title (parameter : Parameter) : String :=
  String.ofList (titleFrom true parameter.name.toList)

/-- The description of a parameter. -/
def description (parameter : Parameter) : Value :=
  let kind (word : String) : Value := .object [("type", .text word)]
  let type : Fields :=
    if parameter.nullable then [("anyOf", .list [kind parameter.kind.word, kind "null"])]
    else [("type", .text parameter.kind.word)]
  let default : Fields := match parameter.default with
    | some v => [("default", v)]
    | none => []
  let bounds : Fields := match parameter.bounds with
    | some (least, greatest) => [("maximum", .int greatest), ("minimum", .int least)]
    | none => []
  .object (type ++ default ++ bounds ++ [("title", .text parameter.title)])

/-- The description of the parameters of an operation, under the title of
their sheet. -/
def sheet (title : String) (about : Option String) (parameters : List Parameter) : Value :=
  let required := parameters.filter fun parameter => parameter.default.isNone
  .object
    ([ ("properties", .object (parameters.map fun parameter =>
          (parameter.name, parameter.description))),
       ("title", .text title),
       ("type", .text "object") ] ++
      (if required.isEmpty then []
        else [("required", Value.ofTexts (required.map Parameter.name))]) ++
      (match about with
        | some sentence => [("description", .text sentence)]
        | none => []))

/-- The description of an operation that takes no arguments. -/
def noParameters : Value :=
  sheet "NoArgs" (some "Argument model for capabilities that take no arguments.") []

end Parameter

end FlowDesk
