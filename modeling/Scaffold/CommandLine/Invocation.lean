import Scaffold.CommandLine.Command
import Scaffold.CommandLine.Reader
import Scaffold.Product

/-!
# Invocations

What a command line asks for. The registry is described as a program, the words are followed by that
description, and the values found are taken for the switches and for the parameters of the blueprint
chosen. Of a yes or no the value counts only if a word says it.
-/

namespace Scaffold

/-- What was asked for on the command line. -/
structure Invocation where
  /-- The blueprint chosen, if one was. -/
  blueprint? : Option String
  /-- The values of its parameters. -/
  options : Options
  /-- Whether to apply changes without asking. -/
  yes : Bool
  /-- Whether to show changes and write nothing. -/
  dryRun : Bool
  /-- Whether to tell more. -/
  verbose : Bool
  deriving Repr, DecidableEq

/-- The value found for a parameter. -/
def ArgumentMatches.option? (found : ArgumentMatches) (parameter : Parameter) :
    Option OptionValue :=
  match parameter.kind with
  | .boolean =>
    if found.source? parameter.name == some .commandLine then
      (found.truth? parameter.name).map .flag
    else none
  | .text | .choice _ | .file | .directory => (found.text? parameter.name).map .text

/-- The values found for parameters. -/
def ArgumentMatches.options (found : ArgumentMatches) (parameters : List Parameter) : Options :=
  Options.ofList (parameters.filterMap fun parameter =>
    (found.option? parameter).map (parameter.name, ·))

namespace Invocation

variable {β : Type} [Declared β]

/-- What the values found on a command line ask for. -/
def ofMatches (registry : Registry β) (found : ProgramMatches) : Invocation :=
  match found.command? with
  | none =>
    let isOn (switch : Switch) := found.outer.isOn switch.flag
    ⟨none, .empty, isOn .yes, isOn .dryRun, isOn .verbose⟩
  | some (name, inner) =>
    let isOn (switch : Switch) := found.outer.isOn switch.flag || inner.isOn switch.flag
    let options :=
      match registry.find? name with
      | some entry => inner.options (Declared.parameters entry.blueprint)
      | none => .empty
    ⟨some name, options, isOn .yes, isOn .dryRun, isOn .verbose⟩

/-- Follow the words of a command line, the first of which names the program. -/
def parse (registry : Registry β) (words : List String) (product : Product := Product.tools)
    (reader : ArgumentReader := ProgramSpec.read) : Except UsageError Invocation := do
  let found ← reader (registry.program product.name product.about product.version) words
  return ofMatches registry found

end Invocation

end Scaffold
