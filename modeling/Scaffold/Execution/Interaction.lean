import Scaffold.Blueprint.Error
import Scaffold.Diff.Display
import Scaffold.Host
import Scaffold.Parameter
import Scaffold.Summary

/-!
# Interactions

What an execution needs from its user: answers to questions, a decision about the plan, and a
place for messages. One user is unattended: it takes every proposal, applies without asking and
prints. Another follows a script and remembers what it was shown. The third sits at no terminal,
so that everything that would have to be asked fails.
-/

namespace Scaffold

/-- The answer to the question whether to apply the plan. -/
inductive Decision where
  | apply
  | cancel
  /-- Show what happens to a file and ask again. -/
  | reveal (path : Path)
  deriving Repr, DecidableEq

/-- The user of an execution. -/
class Interaction (ι : Type) where
  /-- Whether colours are shown. -/
  colours : ι → Bool
  /-- How many times at most the user looks at a file before deciding. -/
  patience : ι → Nat
  /-- Ask for values. -/
  ask : List Question → Task BlueprintError ι Options
  /-- Show the plan and ask what to do. -/
  confirm : Summary → Task BlueprintError ι Decision
  /-- Show what happens to a file. -/
  showDiff : FileDiff → Task BlueprintError ι Unit
  /-- Tell something. -/
  info : String → Task BlueprintError ι Unit
  /-- Tell that all went well. -/
  success : String → Task BlueprintError ι Unit
  /-- Tell that something went wrong. -/
  error : String → Task BlueprintError ι Unit

/-- A user that is not there: proposals are taken, plans are applied, messages are printed. -/
structure Unattended where
  /-- Whether the output shows colours. -/
  colours : Bool
  /-- What was printed. -/
  output : String
  /-- What was printed apart, as errors and diffs are. -/
  errors : String
  deriving Repr, DecidableEq

namespace Unattended

/-- An unattended user before anything was printed. -/
def start (colours : Bool) : Unattended := ⟨colours, "", ""⟩

/-- Print a line. -/
def printLine (line : String) : Task BlueprintError Unattended Unit :=
  modify fun user => { user with output := user.output ++ line ++ "\n" }

/-- Print a line apart. -/
def printErrorLine (line : String) : Task BlueprintError Unattended Unit :=
  modify fun user => { user with errors := user.errors ++ line ++ "\n" }

/-- The proposals of questions. -/
def answers (questions : List Question) : Options :=
  Options.ofList (questions.filterMap fun question =>
    question.default?.map (question.parameter.name, ·))

instance : Interaction Unattended where
  colours user := user.colours
  patience _ := 0
  ask questions := pure (answers questions)
  confirm summary := do
    let user ← get
    printLine (Text.paintIf user.colours .magenta "Plan of operation:")
    printLine (summary.render user.colours)
    return .apply
  showDiff diff := do
    let user ← get
    printErrorLine (Text.paintIf user.colours .cyan diff.path.text)
    printErrorLine (diff.render user.colours)
  info message := do printLine (Text.paintIf (← get).colours .blue message)
  success message := do printLine (Text.paintIf (← get).colours .green message)
  error message := do printErrorLine (Text.paintIf (← get).colours .red message)

end Unattended

/-- A user that follows a script. -/
structure Scripted where
  /-- The answers to questions, before proposals. -/
  answers : Options
  /-- The decisions still to come; after them everything is cancelled. -/
  decisions : List Decision
  /-- The questions asked so far. -/
  asked : List Question
  /-- The plans shown so far. -/
  summaries : List Summary
  /-- The diffs shown so far. -/
  diffs : List FileDiff
  /-- The messages told so far. -/
  messages : List String
  deriving Repr, DecidableEq

namespace Scripted

/-- A user at the start of its script. -/
def start (answers : Options) (decisions : List Decision) : Scripted :=
  ⟨answers, decisions, [], [], [], []⟩

/-- Remember a message. -/
def tell (message : String) : Task BlueprintError Scripted Unit :=
  modify fun user => { user with messages := user.messages ++ [message] }

/-- The answers of the script to questions, and the proposals where it has none. -/
def reply (user : Scripted) (questions : List Question) : Options :=
  Options.ofList (questions.filterMap fun question =>
    ((user.answers.find? question.parameter.name).or question.default?).map
      (question.parameter.name, ·))

instance : Interaction Scripted where
  colours _ := true
  patience user := user.decisions.length
  ask questions := do
    let user ← get
    set { user with asked := user.asked ++ questions }
    return user.reply questions
  confirm summary := do
    let user ← get
    let user := { user with summaries := user.summaries ++ [summary] }
    match user.decisions with
    | [] =>
      set user
      return .cancel
    | decision :: rest =>
      set { user with decisions := rest }
      return decision
  showDiff diff := modify fun user => { user with diffs := user.diffs ++ [diff] }
  info := tell
  success := tell
  error := tell

end Scripted

/-- A user without a terminal: messages are lost, and questions cannot be asked. -/
structure Disconnected where
  /-- Whether messages would show colours. -/
  colours : Bool
  deriving Repr, DecidableEq

namespace Disconnected

/-- The failure to ask. -/
def failure : BlueprintError := .access "not connected"

instance : Interaction Disconnected where
  colours user := user.colours
  patience _ := 0
  ask questions := if questions.isEmpty then pure Options.empty else throw failure
  confirm _ := throw failure
  showDiff _ := pure ()
  info _ := pure ()
  success _ := pure ()
  error _ := pure ()

end Disconnected

end Scaffold
