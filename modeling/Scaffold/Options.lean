/-!
# Options

The values given for the parameters of a blueprint, by name. The entries are kept in the order of
their names, each name once.
-/

namespace Scaffold

/-- The value of an option. -/
inductive OptionValue where
  /-- A yes or no. -/
  | flag (value : Bool)
  /-- A text. -/
  | text (value : String)
  deriving Repr, DecidableEq

namespace OptionValue

/-- The value as a text. -/
def render : OptionValue → String
  | flag true => "true"
  | flag false => "false"
  | text value => value

/-- The text of a value that is one. -/
def text? : OptionValue → Option String
  | flag _ => none
  | text value => some value

end OptionValue

/-- Option values by name. -/
structure Options where
  /-- The entries in the order of their names. -/
  entries : List (String × OptionValue)
  deriving Repr, DecidableEq, Inhabited

namespace Options

/-- No options. -/
def empty : Options := ⟨[]⟩

/-- The value of a name. -/
def find? (options : Options) (name : String) : Option OptionValue := options.entries.lookup name

/-- Whether the name has a value. -/
def contains (options : Options) (name : String) : Bool := (options.find? name).isSome

/-- Set the value of a name among ordered entries. -/
def insertIn (name : String) (value : OptionValue) :
    List (String × OptionValue) → List (String × OptionValue)
  | [] => [(name, value)]
  | (key, old) :: rest =>
    if key == name then (name, value) :: rest
    else if name < key then (name, value) :: (key, old) :: rest
    else (key, old) :: insertIn name value rest

/-- Set the value of a name. -/
def insert (options : Options) (name : String) (value : OptionValue) : Options :=
  ⟨insertIn name value options.entries⟩

/-- Set the values of names one after the other. -/
def insertAll (options : Options) (entries : List (String × OptionValue)) : Options :=
  entries.foldl (fun options entry => options.insert entry.1 entry.2) options

/-- The options of a list of entries; of equal names the last value counts. -/
def ofList (entries : List (String × OptionValue)) : Options := empty.insertAll entries

end Options

end Scaffold
