import Scaffold.Proofs.CommandLine.Following
import Scaffold.Proofs.Result

/-!
# Values backed by words

The reader of this library finds only what the words say. Whatever words it follows, each value it
holds is one of an argument that some word gave, and so is the argument that waits. At the end
nothing needed is missing, and what no word gave is at its default.
-/

namespace Scaffold

namespace GivenArguments

/-- The arguments are backed by those that were given: each value was read for one of them, and one
of them waits. -/
structure Backed (command : CommandSpec) (isGiven : ArgumentSpec → Prop)
    (given : GivenArguments) : Prop where
  /-- Each value is that of an argument given. -/
  values : ∀ entry ∈ given.values, ∃ argument ∈ command.arguments,
    argument.flag = entry.1 ∧ isGiven argument ∧ ∃ text?, argument.valueOf? text? = some entry.2
  /-- The argument that waits was given too. -/
  waiting : ∀ waiting, given.waiting? = some waiting →
    waiting.argument ∈ command.arguments ∧ isGiven waiting.argument

variable {command : CommandSpec} {isGiven : ArgumentSpec → Prop} {given after : GivenArguments}

namespace Backed

/-- Nothing given needs no word. -/
theorem start : Backed command isGiven GivenArguments.start where
  values _ hentry := absurd hentry List.not_mem_nil
  waiting _ hwaiting := absurd hwaiting (Option.some_ne_none _).symm

/-- A value taken for an argument is backed by the argument. -/
theorem accept (backed : given.Backed command isGiven) {argument : ArgumentSpec}
    (hargument : argument ∈ command.arguments) (hgiven : isGiven argument) {text? : Option String}
    (htake : given.accept argument text? = .ok after) : after.Backed command isGiven := by
  unfold GivenArguments.accept at htake
  split at htake
  case h_1 => cases htake
  case h_2 text htext =>
    split at htake
    case isTrue => cases htake
    case isFalse =>
      split at htake
      case h_1 value hread =>
        cases htake
        have hvalue : argument.valueOf? text? = some value := by
          rw [ArgumentSpec.valueOf?, htext]
          exact hread
        exact ⟨List.forall_mem_cons.mpr
          ⟨⟨argument, hargument, rfl, hgiven, text?, hvalue⟩, backed.values⟩, backed.waiting⟩
      case h_2 => cases htake

/-- Settling the argument that waits gives it a value. -/
theorem settle (backed : given.Backed command isGiven) (htake : given.settle = .ok after) :
    after.Backed command isGiven := by
  unfold GivenArguments.settle at htake
  split at htake
  case h_1 =>
    cases htake
    exact backed
  case h_2 argument text? hwaiting =>
    obtain ⟨hargument, hgiven⟩ := backed.waiting _ hwaiting
    have hidle : { given with waiting? := none }.Backed command isGiven :=
      ⟨backed.values, fun _ hwaits => absurd hwaits (Option.some_ne_none _).symm⟩
    exact hidle.accept hargument hgiven htake

/-- An argument that is given has a value then or waits for one. -/
theorem take (backed : given.Backed command isGiven) {argument : ArgumentSpec}
    (hargument : argument ∈ command.arguments) (hgiven : isGiven argument) {text? : Option String}
    (htake : given.take argument text? = .ok after) : after.Backed command isGiven := by
  unfold GivenArguments.take at htake
  split at htake
  case isTrue => cases htake
  case isFalse =>
    obtain ⟨settled, hsettle, htake⟩ := exists_of_bind_eq_ok htake
    have hsettled := backed.settle hsettle
    split at htake
    case isTrue =>
      cases htake
      refine ⟨hsettled.values, ?_⟩
      rintro waiting ⟨⟩
      exact ⟨hargument, hgiven⟩
    case isFalse => exact hsettled.accept hargument hgiven htake

/-- A wish ends the command line. -/
theorem stopFor_ne_ok {wish : UsageError} {text? : Option String} :
    given.stopFor wish text? ≠ .ok after := by
  intro htake
  unfold stopFor at htake
  split at htake
  case isTrue => cases htake
  case isFalse =>
    obtain ⟨settled, -, herror⟩ := exists_of_bind_eq_ok htake
    cases herror

/-- A flag gives the argument that has it. -/
theorem takeFlag (backed : given.Backed command isGiven) {flag : String} {text? : Option String}
    (hgiven : ∀ argument ∈ command.arguments, argument.flag = flag → isGiven argument)
    (htake : given.takeFlag command flag text? = .ok after) : after.Backed command isGiven := by
  unfold GivenArguments.takeFlag at htake
  split at htake
  case h_1 argument hfind =>
    have hargument := List.mem_of_find?_eq_some hfind
    have hflag := List.find?_some hfind
    exact backed.take hargument (hgiven argument hargument (beq_iff_eq.mp hflag)) htake
  case h_2 =>
    split at htake
    case isTrue => exact absurd htake stopFor_ne_ok
    case isFalse =>
      split at htake
      case isTrue => exact absurd htake stopFor_ne_ok
      case isFalse => cases htake

/-- Letters give the arguments that have them. -/
theorem takeLetters (backed : given.Backed command isGiven) {letters : List Char}
    (hgiven : ∀ argument ∈ command.arguments, ∀ letter ∈ letters,
      argument.letter? = some letter → isGiven argument)
    (htake : given.takeLetters command letters = .ok after) : after.Backed command isGiven := by
  induction letters generalizing given with
  | nil =>
    cases htake
    exact backed
  | cons letter rest ih =>
    unfold GivenArguments.takeLetters at htake
    split at htake
    case h_1 argument hfind =>
      obtain ⟨taken, htaken, htake⟩ := exists_of_bind_eq_ok htake
      have hargument := List.mem_of_find?_eq_some hfind
      have hletter := List.find?_some hfind
      have hthis := hgiven argument hargument letter List.mem_cons_self (beq_iff_eq.mp hletter)
      refine ih (backed.take hargument hthis htaken) ?_ htake
      exact fun argument hargument other hother =>
        hgiven argument hargument other (List.mem_cons_of_mem letter hother)
    case h_2 =>
      split at htake
      case isTrue => exact absurd htake stopFor_ne_ok
      case isFalse =>
        split at htake
        case isTrue => exact absurd htake stopFor_ne_ok
        case isFalse => cases htake

/-- A plain word is kept for the argument that waits. -/
theorem takePlain (backed : given.Backed command isGiven) {word : String}
    (htake : given.takePlain word = .ok after) : after.Backed command isGiven := by
  unfold GivenArguments.takePlain at htake
  split at htake
  case h_1 argument hwaiting =>
    cases htake
    refine ⟨backed.values, ?_⟩
    rintro waiting ⟨⟩
    exact backed.waiting ⟨argument, none⟩ hwaiting
  case h_2 => cases htake

/-- Words behind a command back the values they give. -/
theorem takeWords (backed : given.Backed command isGiven) {words : List String}
    (hgiven : ∀ word ∈ words, ∀ argument ∈ command.arguments,
      argument.IsGivenBy word → isGiven argument)
    (htake : GivenArguments.takeWords command words given = .ok after) :
    after.Backed command isGiven := by
  induction words generalizing given with
  | nil => exact backed.settle htake
  | cons word rest ih =>
    obtain ⟨hword, hrest⟩ := List.forall_mem_cons.mp hgiven
    unfold GivenArguments.takeWords at htake
    split at htake
    case h_1 =>
      split at htake
      case isTrue => exact backed.settle htake
      case isFalse => cases htake
    case h_2 flag text? hform =>
      obtain ⟨taken, hflag, htake⟩ := exists_of_bind_eq_ok htake
      refine ih (backed.takeFlag ?_ hflag) hrest htake
      rintro argument hargument rfl
      exact hword argument hargument (.inl (CommandWord.givesFlag_of hform))
    case h_3 letters hform =>
      obtain ⟨taken, hletters, htake⟩ := exists_of_bind_eq_ok htake
      refine ih (backed.takeLetters ?_ hletters) hrest htake
      intro argument hargument letter hletter hhas
      exact hword argument hargument (.inr ⟨letter, hhas, CommandWord.mem_of_letters hform hletter⟩)
    case h_4 =>
      obtain ⟨taken, hplain, htake⟩ := exists_of_bind_eq_ok htake
      exact ih (backed.takePlain hplain) hrest htake

/-- What is found of an argument is what a word gives, or its default, once the arguments needed
were given. -/
theorem isFoundIn {words : List String}
    (backed : given.Backed command fun argument => ∃ word ∈ words, argument.IsGivenBy word)
    (hneeded : given.checkNeeded command = .ok ())
    (hflags : (command.arguments.map ArgumentSpec.flag).Nodup) {argument : ArgumentSpec}
    (hargument : argument ∈ command.arguments) :
    argument.IsFoundIn words ((given.found command).find? argument.flag) := by
  rw [find?_found hflags hargument]
  cases hvalue : given.values.lookup argument.flag with
  | some value =>
    obtain ⟨other, hother, hflag, ⟨word, hword, hgives⟩, text?, hread⟩ :=
      backed.values _ (mem_of_lookup hvalue)
    obtain rfl := List.inj_on_of_nodup_map hflags hother hargument hflag
    exact .given hword hgives hread
  | none =>
    rw [Option.map_none, Option.none_or]
    refine .absent ?_
    unfold checkNeeded at hneeded
    dsimp only at hneeded
    split at hneeded
    case isTrue => cases hneeded
    case isFalse hnone =>
      rw [List.any_eq_true] at hnone
      rw [← Bool.not_eq_true]
      intro hrequired
      exact hnone ⟨argument, hargument, by rw [hrequired, hvalue]; rfl⟩

end Backed

end GivenArguments

namespace ProgramSpec

variable {program : ProgramSpec}

/-- What a command line that chooses a command comes to: its words choose a command of the program,
and those behind its name are followed. -/
theorem exists_readCommand {outer : GivenArguments} {words : List String}
    {first inner : ArgumentMatches} {name : String}
    (hread : program.readFrom words outer = .ok ⟨first, some (name, inner)⟩) :
    ∃ command ∈ program.subcommands, ∃ outer rest, (∀ word ∈ rest, word ∈ words) ∧
      program.readCommand outer command rest = .ok ⟨first, some (name, inner)⟩ := by
  have hclose {outer : GivenArguments} : program.close outer ≠ .ok ⟨first, some (name, inner)⟩ := by
    intro h
    obtain ⟨settled, -, h⟩ := exists_of_bind_eq_ok h
    obtain ⟨-, -, h⟩ := exists_of_bind_eq_ok h
    cases h
  induction words generalizing outer with
  | nil => exact absurd hread hclose
  | cons word rest ih =>
    have hlater {outer : GivenArguments}
        (hrest : program.readFrom rest outer = .ok ⟨first, some (name, inner)⟩) :
        ∃ command ∈ program.subcommands, ∃ outer behind,
          (∀ other ∈ behind, other ∈ word :: rest) ∧
            program.readCommand outer command behind = .ok ⟨first, some (name, inner)⟩ := by
      obtain ⟨command, hcommand, left, behind, hbehind, hread⟩ := ih hrest
      exact ⟨command, hcommand, left, behind,
        fun other h => List.mem_cons_of_mem _ (hbehind other h), hread⟩
    unfold readFrom at hread
    dsimp only at hread
    split at hread
    case h_1 command hfind =>
      have hcommand : command ∈ program.subcommands := by
        split at hfind
        case isTrue => cases hfind
        case isFalse => exact List.mem_of_find?_eq_some hfind
      exact ⟨command, hcommand, outer, rest, fun other h => List.mem_cons_of_mem _ h, hread⟩
    case h_2 =>
      split at hread
      case isTrue => cases hread
      case isFalse =>
        split at hread
        case h_1 =>
          split at hread
          case isTrue => exact absurd hread hclose
          case isFalse => cases hread
        case h_2 =>
          obtain ⟨taken, -, hrest⟩ := exists_of_bind_eq_ok hread
          exact hlater hrest
        case h_3 =>
          obtain ⟨taken, -, hrest⟩ := exists_of_bind_eq_ok hread
          exact hlater hrest
        case h_4 =>
          split at hread
          case isTrue =>
            obtain ⟨taken, -, hrest⟩ := exists_of_bind_eq_ok hread
            exact hlater hrest
          case isFalse => cases hread

/-- The reader of this library finds only what the words say. -/
theorem read_isSound : ArgumentReader.IsSound ProgramSpec.read where
  sound {program} wellFormed {words outer inner name} hread := by
    obtain ⟨command, hcommand, first, rest, hrest, hread⟩ := exists_readCommand hread
    obtain ⟨settled, -, hread⟩ := exists_of_bind_eq_ok hread
    obtain ⟨given, hgiven, hread⟩ := exists_of_bind_eq_ok hread
    obtain ⟨⟨⟩, hneeded, hread⟩ := exists_of_bind_eq_ok hread
    obtain ⟨-, -, hread⟩ := exists_of_bind_eq_ok hread
    cases hread
    have hlevel := wellFormed.nodup_level hcommand
    have backed : given.Backed (program.level command)
        fun argument => ∃ word ∈ words.tail, argument.IsGivenBy word :=
      GivenArguments.Backed.start.takeWords
        (fun word hword _ _ hgives => ⟨word, hrest word hword, hgives⟩) hgiven
    refine ⟨command, hcommand, rfl, fun argument hargument => ?_⟩
    have hlocal := wellFormed.flag_notMem_globals hcommand hargument
    have hfind := backed.isFoundIn hneeded hlevel (List.mem_append_left _ hargument)
    rwa [ArgumentMatches.find?_shared_of_notMem hlocal]

end ProgramSpec

end Scaffold
