import Scaffold.Yaml.Meaning
import Scaffold.Yaml.Node

/-!
# Reading values from documents

What is asked for decides how a node is read. A text takes any scalar as it is written; a list or
a record also takes a plain scalar without text, as one without items or entries. Where the kind of
a value is open, plain scalars are read by their meaning. Aliases are followed, at most a hundred
times for each event of the document, and open values may be nested 128 deep in all.
-/

namespace Scaffold.Yaml

/-- Reading something from a document; the state is how many aliases may still be followed. -/
abbrev Reading := ReaderT Document (StateT Nat Option)

namespace Reading

/-- The node itself, or the one that it stands for. -/
def resolve (node : Node) : Reading Node := do
  match node with
  | .alias anchor =>
    match ← getThe Nat with
    | 0 => failure
    | left + 1 =>
      set left
      match (← read).target? anchor with
      | some target => return target
      | none => failure
  | node => return node

/-- Read a text. -/
def text (node : Node) : Reading String := do
  match ← resolve node with
  | .scalar _ _ text => return text
  | _ => failure

/-- The tag of nothing. -/
def nullTag : String := "tag:yaml.org,2002:null"

/-- The tag of a yes or no. -/
def flagTag : String := "tag:yaml.org,2002:bool"

/-- Whether a node is written as nothing; fails if its tag says so and its text does not. -/
def isAbsent (node : Node) : Reading Bool := do
  match node with
  | .scalar (some tag) .plain text =>
    if tag == nullTag then if Meaning.isNull text then return true else failure
    else return false
  | .scalar none .plain text => return text.isEmpty || Meaning.isNull text
  | _ => return false

/-- Read something that may be absent. -/
def optional {α : Type} (reading : Node → Reading α) (node : Node) : Reading (Option α) := do
  let node ← resolve node
  if ← isAbsent node then return none else return some (← reading node)

/-- Read a yes or no. -/
def flag (node : Node) : Reading Bool := do
  match ← resolve node with
  | .scalar tag? style text =>
    if style == .plain || (style == .literal && tag? == some flagTag) then
      match Meaning.flag? text with
      | some value => return value
      | none => failure
    else failure
  | _ => failure

/-- Read the items of a list. -/
def items (node : Node) : Reading (List Node) := do
  match ← resolve node with
  | .sequence _ items => return items
  | .scalar _ .plain text => if text.isEmpty then return [] else failure
  | _ => failure

/-- Read a list. -/
def list {α : Type} (reading : Node → Reading α) (node : Node) : Reading (List α) := do
  (← items node).mapM reading

/-- The entries of a record by name. -/
abbrev Fields := List (String × Node)

/-- Read the entries of a record. -/
def fields (node : Node) : Reading Fields := do
  match ← resolve node with
  | .mapping _ entries => entries.mapM fun entry => do return (← text entry.1, entry.2)
  | .scalar _ .plain text => if text.isEmpty then return [] else failure
  | _ => failure

/-- The entry of a name, if there is one; fails if there are several. -/
def entry? (fields : Fields) (name : String) : Reading (Option Node) := do
  match fields.filter (·.1 == name) with
  | [] => return none
  | [(_, node)] => return some node
  | _ => failure

/-- Read an entry that has to be there. -/
def required {α : Type} (reading : Node → Reading α) (fields : Fields) (name : String) :
    Reading α := do
  match ← entry? fields name with
  | some node => reading node
  | none => failure

/-- Read an entry that may be missing. -/
def defaulted {α : Type} (reading : Node → Reading α) (fallback : α) (fields : Fields)
    (name : String) : Reading α := do
  match ← entry? fields name with
  | some node => reading node
  | none => return fallback

/-- A value whose kind was open. -/
inductive OpenValue where
  /-- Nothing. -/
  | null
  | flag (value : Bool)
  /-- An integer without a minus sign. -/
  | natural (value : Nat)
  /-- Another number. -/
  | number
  | text (value : String)
  | list (items : List OpenValue)
  | record

/-- The value of a meaning; integers of more than 64 bits have none. -/
def ofMeaning (text : String) : Meaning → Option OpenValue
  | .null => some .null
  | .flag value => some (.flag value)
  | .natural value => if value < UInt64.size then some (.natural value) else none
  | .negative magnitude => if magnitude ≤ UInt64.size / 2 then some .number else none
  | .float => some .number
  | .text => some (.text text)

/-- The value of a text whose tag asks for a kind. There is none for a local tag, which starts with
an exclamation mark. -/
def ofTagged (tag text : String) : Option OpenValue :=
  let meaning := Meaning.ofText text
  if tag == flagTag then (Meaning.flag? text).map .flag
  else if tag == "tag:yaml.org,2002:int" then
    match Meaning.natural? text.toList, Meaning.negative? text.toList with
    | none, none => none
    | _, _ => ofMeaning text meaning
  else if tag == "tag:yaml.org,2002:float" then
    if Meaning.isFloat text then some .number else none
  else if tag == nullTag then if Meaning.isNull text then some .null else none
  else if tag.startsWith "!" then none
  else some (.text text)

/-- The value of a scalar. -/
def ofScalar (tag? : Option String) (style : ScalarStyle) (text : String) : Option OpenValue :=
  match tag? with
  | some tag => ofTagged tag text
  | none => if style == .plain then ofMeaning text (Meaning.ofText text) else some (.text text)

/-- Whether a collection carries a local tag. -/
def isLocal (tag? : Option String) : Bool := tag?.any (·.startsWith "!")

/-- Read a value of any kind, nested at most `depth` deep. -/
def openValue : Nat → Node → Reading OpenValue
  | depth, node => do
    match ← resolve node, depth with
    | .scalar tag? style text, _ =>
      match ofScalar tag? style text with
      | some value => return value
      | none => failure
    | .sequence tag? items, depth + 1 =>
      if isLocal tag? then failure else return .list (← items.mapM (openValue depth))
    | .mapping tag? entries, depth + 1 =>
      if isLocal tag? then failure
      else
        for entry in entries do
          let _ ← openValue depth entry.1
          let _ ← openValue depth entry.2
        return .record
    | _, _ => failure

/-- Read a document. -/
def ofDocument {α : Type} (reading : Node → Reading α) (document : Document) : Option α :=
  (reading document.root document (document.size * 100)).map Prod.fst

/-- Read a text. -/
def ofText {α : Type} (reading : Node → Reading α) (text : String) : Option α :=
  (document? text).bind (ofDocument reading)

end Reading

end Scaffold.Yaml
