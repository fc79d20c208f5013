import Scaffold.Options

/-!
# Parameters

The inputs that a blueprint declares, the check of a value against a declaration, and the
questions by which missing values are asked for.
-/

namespace Scaffold

/-- What values a parameter takes. -/
inductive ParameterKind where
  /-- Any text. -/
  | text
  /-- A yes or no. -/
  | boolean
  /-- One of the choices. -/
  | choice (choices : List String)
  /-- The path of a file. -/
  | file
  /-- The path of a directory. -/
  | directory
  deriving Repr, DecidableEq

namespace ParameterKind

/-- The word for a kind. -/
def label : ParameterKind → String
  | text => "string"
  | boolean => "boolean"
  | choice _ => "enum"
  | file => "file"
  | directory => "dir"

/-- The words for all kinds, in the order of the kinds. -/
def labels : List String := ["string", "boolean", "enum", "file", "dir"]

/-- The kind of a word; the choices count only where the kind has some. -/
def ofLabel? (label : String) (choices : List String) : Option ParameterKind :=
  [text, boolean, choice choices, file, directory].find? (·.label == label)

/-- The choices of a kind that has some. -/
def choices? : ParameterKind → Option (List String)
  | choice choices => some choices
  | _ => none

/-- Whether a value must be given with the flag of this kind. -/
def takesValue (kind : ParameterKind) : Bool := kind != boolean

end ParameterKind

/-- Why a value does not fit its parameter. -/
inductive ParameterFault where
  /-- A text was given where a yes or no is needed. -/
  | needsFlag (name got : String)
  /-- A yes or no was given where a text is needed. -/
  | needsText (name : String) (got : Bool)
  /-- The text is none of the choices. -/
  | notChoice (name : String) (choices : List String) (got : String)
  deriving Repr, DecidableEq

/-- The words for a fault. -/
def ParameterFault.message : ParameterFault → String
  | .needsFlag name got => "--" ++ name ++ " expects a boolean, got '" ++ got ++ "'"
  | .needsText name got =>
    "--" ++ name ++ " expects a value, got '" ++ (OptionValue.flag got).render ++ "'"
  | .notChoice name choices got =>
    "--" ++ name ++ " must be one of: " ++ ", ".intercalate choices ++ " (got '" ++ got ++ "')"

/-- A declared input. -/
structure Parameter where
  /-- The name, which is also the flag on the command line. -/
  name : String
  /-- What values it takes. -/
  kind : ParameterKind
  /-- What it is for. -/
  description : String
  /-- Whether a run needs a value. -/
  require : Bool
  /-- Whether the value may be asked for. -/
  ask : Bool
  /-- The value used when none is given. -/
  default? : Option OptionValue
  deriving Repr, DecidableEq

namespace Parameter

/-- Whether the value is needed and can only come from the command line. -/
def isFlagOnly (parameter : Parameter) : Bool := parameter.require && !parameter.ask

/-- What is wrong with a value for the parameter, if anything. -/
def fault? (parameter : Parameter) : OptionValue → Option ParameterFault
  | .flag value =>
    match parameter.kind with
    | .boolean => none
    | _ => some (.needsText parameter.name value)
  | .text value =>
    match parameter.kind with
    | .boolean => some (.needsFlag parameter.name value)
    | .choice choices =>
      if choices.contains value then none else some (.notChoice parameter.name choices value)
    | _ => none

/-- Whether a value fits the parameter. -/
def accepts (parameter : Parameter) (value : OptionValue) : Bool := (parameter.fault? value).isNone

/-- The required parameters without a value in the options. -/
def missing (parameters : List Parameter) (options : Options) : List Parameter :=
  parameters.filter fun parameter => parameter.require && !options.contains parameter.name

/-- The complaint that a parameter has no value. -/
def unspecified (parameter : Parameter) : String := "--" ++ parameter.name ++ " must be specified"

end Parameter

/-- A question for the value of a parameter. -/
structure Question where
  /-- The parameter. -/
  parameter : Parameter
  /-- The answer proposed. -/
  default? : Option OptionValue
  deriving Repr, DecidableEq

/-- The question for a parameter; the value already known is proposed, or else the default. -/
def Question.of (parameter : Parameter) (options : Options) : Question :=
  ⟨parameter, (options.find? parameter.name).or parameter.default?⟩

end Scaffold
