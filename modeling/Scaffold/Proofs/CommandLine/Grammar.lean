import Scaffold.Proofs.CommandLine.Naming

/-!
# The grammar of a command line

What a program may rely on, whoever follows the words of its command line. Words that give the flags
of its arguments are followed, in whichever order they stand and global ones on either side of the
command, and each value is found by its flag. Nothing is found that no word says and no default
gives, and nothing that is needed is missing. Both hold of a program whose commands can be told
apart, and whose arguments can be told apart wherever they can be given.
-/

namespace Scaffold

/-- A program whose commands and arguments can be told apart. Besides its own there are a command
and a flag for the help and a flag for the version. -/
structure ProgramSpec.IsWellFormed (program : ProgramSpec) : Prop where
  /-- No two commands have one name. -/
  commands : ("help" :: program.subcommands.map CommandSpec.name).Nodup
  /-- No command looks like a flag. -/
  names : ∀ command ∈ program.subcommands, command.name.toList.head? ≠ some '-'
  /-- No two arguments have one flag. -/
  flags : ∀ command ∈ program.subcommands,
    ("help" :: "version" :: (program.level command).arguments.map ArgumentSpec.flag).Nodup
  /-- No two arguments have one letter. -/
  letters : ∀ command ∈ program.subcommands,
    ('h' :: 'V' :: (program.level command).arguments.filterMap ArgumentSpec.letter?).Nodup
  /-- A flag ends where its equals sign stands. -/
  spelt : ∀ command ∈ program.subcommands, ∀ argument ∈ (program.level command).arguments,
    argument.flag ≠ "" ∧ '=' ∉ argument.flag.toList
  /-- The arguments of the program itself can be given to every command, and none must be. -/
  shared : ∀ argument ∈ program.command.arguments,
    argument.isGlobal = true ∧ argument.required = false

/-- An argument in one word: its flag, alone or with a text joined to it. -/
structure GivenArgument where
  /-- The argument. -/
  argument : ArgumentSpec
  /-- The text. -/
  text? : Option String

namespace GivenArgument

/-- The word. -/
def word (given : GivenArgument) : String := flagWord given.argument.flag given.text?

/-- The flag. -/
def flag (given : GivenArgument) : String := given.argument.flag

/-- The value that the word says. -/
def value? (given : GivenArgument) : Option ArgumentValue := given.argument.valueOf? given.text?

/-- The word says a value, and the next one is not needed for it: a text is joined to the flag of an
argument that takes one, and where none is joined the argument does not wait for one. -/
structure IsComplete (given : GivenArgument) : Prop where
  /-- A text is joined only where one is taken. -/
  joined : given.text?.isSome = true → given.argument.takesValue = true
  /-- Without a text nothing is waited for. -/
  alone : given.text? = none → given.argument.takesValue = true → given.argument.needsEquals = true
  /-- The value is read. -/
  readable : given.value?.isSome = true

/-- What is found of an argument where some are given: the value that its word says, or its
default. -/
def found? (given : List GivenArgument) (argument : ArgumentSpec) : Option MatchedArgument :=
  match given.find? (·.flag == argument.flag) with
  | some word => word.value?.map (MatchedArgument.mk · .commandLine)
  | none => argument.unspoken?

section Found

variable {given : List GivenArgument} {argument : ArgumentSpec}

/-- A flag that is not given is not found. -/
theorem find?_eq_none_of_notMem (h : argument.flag ∉ given.map flag) :
    given.find? (·.flag == argument.flag) = none := by
  rw [List.find?_eq_none]
  intro word hword hflag
  exact h (List.mem_map.mpr ⟨word, hword, beq_iff_eq.mp hflag⟩)

/-- Of an argument that is given once the value of its word is found. -/
theorem found?_of_mem (distinct : (given.map flag).Nodup) {word : GivenArgument}
    (hword : word ∈ given) (hflag : word.flag = argument.flag) :
    found? given argument = word.value?.map (MatchedArgument.mk · .commandLine) := by
  rw [found?, ← hflag, find?_of_nodup distinct hword]

/-- Of an argument that is not given the default is found. -/
theorem found?_of_notMem (h : argument.flag ∉ given.map flag) :
    found? given argument = argument.unspoken? := by
  rw [found?, find?_eq_none_of_notMem h]

/-- What is found of an argument does not depend on words of others. -/
theorem found?_append_of_notMem (h : argument.flag ∉ given.map flag) (rest : List GivenArgument) :
    found? (given ++ rest) argument = found? rest argument := by
  rw [found?, List.find?_append, find?_eq_none_of_notMem h, Option.none_or, found?]

end Found

end GivenArgument

/-- Arguments that can be given before and behind the name of a command of the program: each one
once and in a word that is complete, and none is missing that is needed. -/
structure ProgramSpec.Takes (program : ProgramSpec) (command : CommandSpec)
    (before after : List GivenArgument) : Prop where
  /-- The command is one of the program. -/
  chosen : command ∈ program.subcommands
  /-- Before the command only arguments of every command are given. -/
  outer : ∀ given ∈ before, given.argument ∈ program.globals
  /-- Behind it those of the command are given too. -/
  inner : ∀ given ∈ after, given.argument ∈ (program.level command).arguments
  /-- Every word is complete. -/
  complete : ∀ given ∈ before ++ after, given.IsComplete
  /-- No flag is given twice. -/
  distinct : ((before ++ after).map GivenArgument.flag).Nodup
  /-- What the command needs is given. -/
  needed : ∀ argument ∈ command.arguments, argument.required = true →
    argument.flag ∈ after.map GivenArgument.flag

/-- What follows words as the grammar of long flags says: the command is chosen, and of each
argument that can be given to it the value of its word is found, or its default. What is given of
an argument of every command, on either side, is found at both levels. -/
structure ArgumentReader.FollowsGrammar (reader : ArgumentReader) : Prop where
  /-- The words of arguments that the program takes are followed. -/
  follows {program : ProgramSpec} (wellFormed : program.IsWellFormed) {command : CommandSpec}
    {before after : List GivenArgument} (taken : program.Takes command before after)
    (binary : String) :
    ∃ outer inner,
      reader program (binary :: before.map GivenArgument.word ++ command.name ::
        after.map GivenArgument.word) = .ok ⟨outer, some (command.name, inner)⟩ ∧
      (∀ argument ∈ program.globals,
        outer.find? argument.flag = GivenArgument.found? (before ++ after) argument) ∧
      ∀ argument ∈ (program.level command).arguments,
        inner.find? argument.flag = GivenArgument.found? (before ++ after) argument

namespace ArgumentSpec

/-- The word gives the argument, by its flag or by its letter. -/
def IsGivenBy (argument : ArgumentSpec) (word : String) : Prop :=
  GivesFlag argument.flag word ∨ ∃ letter ∈ argument.letter?, letter ∈ word.toList

/-- What can be found of an argument among words. -/
inductive IsFoundIn (argument : ArgumentSpec) (words : List String) :
    Option MatchedArgument → Prop
  /-- A word gives the argument, and its value is read from a text, or from what stands for a
  missing one. -/
  | given {word : String} (hword : word ∈ words) (hgives : argument.IsGivenBy word)
      {text? : Option String} {value : ArgumentValue}
      (hread : argument.valueOf? text? = some value) :
      IsFoundIn argument words (some ⟨value, .commandLine⟩)
  /-- The argument is not needed, and what is found is its default, if it has one. -/
  | absent (hneeded : argument.required = false) :
      IsFoundIn argument words argument.unspoken?

end ArgumentSpec

/-- What finds only what the words say: the command chosen is one of the program, and of each of
its arguments a word gives the value found, or the argument is not needed. -/
structure ArgumentReader.IsSound (reader : ArgumentReader) : Prop where
  /-- Of each argument of the command chosen what is found can be found among the words. -/
  sound {program : ProgramSpec} (wellFormed : program.IsWellFormed) {words : List String}
    {outer inner : ArgumentMatches} {name : String}
    (hread : reader program words = .ok ⟨outer, some (name, inner)⟩) :
    ∃ command ∈ program.subcommands, command.name = name ∧
      ∀ argument ∈ command.arguments, argument.IsFoundIn words.tail (inner.find? argument.flag)

namespace Parameter

variable (parameter : Parameter)

@[simp] theorem flag_argument : parameter.argument.flag = parameter.name := by
  unfold argument
  cases parameter.kind <;> rfl

@[simp] theorem letter?_argument : parameter.argument.letter? = none := by
  unfold argument
  cases parameter.kind <;> rfl

@[simp] theorem required_argument : parameter.argument.required = parameter.isFlagOnly := by
  unfold argument
  cases parameter.kind <;> rfl

@[simp] theorem takesValue_argument : parameter.argument.takesValue = true := by
  unfold argument
  cases parameter.kind <;> rfl

@[simp] theorem unspoken?_argument : parameter.argument.unspoken? = none := by
  unfold argument
  cases parameter.kind <;> rfl

end Parameter

/-- With the flags of every command, the names of parameters are distinct. -/
theorem FlagNames.nodup_append {parameters : List Parameter} (names : FlagNames parameters) :
    (parameters.map Parameter.name ++ Name.reservedFlags).Nodup := by
  refine List.nodup_append.mpr ⟨names.distinct, by decide, ?_⟩
  rintro _ hname flag hflag rfl
  obtain ⟨parameter, hparameter, rfl⟩ := List.mem_map.mp hname
  exact names.free parameter hparameter hflag

namespace Registry

variable {β : Type} [Declared β] {registry : Registry β} (name about version : String)

/-- The switches can be given to every command. -/
theorem globals_program :
    (registry.program name about version).globals = Switch.all.map Switch.argument := rfl

/-- Behind the name of a blueprint its parameters and the switches can be given. -/
theorem arguments_level_program (entry : RegistryEntry β) :
    ((registry.program name about version).level entry.command).arguments =
      (Declared.parameters entry.blueprint).map Parameter.argument ++
        Switch.all.map Switch.argument := rfl

/-- Their flags are the names of the parameters and the flags of the switches. -/
theorem map_flag_level_program (entry : RegistryEntry β) :
    ((registry.program name about version).level entry.command).arguments.map ArgumentSpec.flag =
      (Declared.parameters entry.blueprint).map Parameter.name ++ Switch.all.map Switch.flag := by
  simp [arguments_level_program, Function.comp_def, Switch.argument]

/-- Only switches have letters. -/
theorem filterMap_letter?_level_program (entry : RegistryEntry β) :
    ((registry.program name about version).level entry.command).arguments.filterMap
      ArgumentSpec.letter? = ['y', 'v'] := by
  have hnone : ArgumentSpec.letter? ∘ Parameter.argument = fun _ => none :=
    funext fun parameter => parameter.letter?_argument
  rw [arguments_level_program, List.filterMap_append, List.filterMap_map, hnone,
    List.filterMap_none]
  rfl

/-- The blueprints of a registry with distinct names, their parameters and the switches can be told
apart. -/
theorem WellNamed.isWellFormed_program (names : registry.WellNamed) :
    (registry.program name about version).IsWellFormed := by
  constructor
  case commands =>
    have hnames : (registry.program name about version).subcommands.map CommandSpec.name =
        registry.entries.map RegistryEntry.name := List.map_map
    rw [hnames]
    refine List.nodup_cons.mpr ⟨fun hhelp => ?_, names.distinct⟩
    obtain ⟨entry, hentry, hname⟩ := List.mem_map.mp hhelp
    refine (names.names entry hentry).free ?_
    change entry.name ∈ Name.reservedCommands
    rw [hname]
    exact List.mem_singleton_self _
  case names =>
    rintro _ hcommand
    obtain ⟨entry, hentry, rfl⟩ := List.mem_map.mp hcommand
    exact Name.head?_ne_hyphen_of_isValid (names.names entry hentry).valid
  case flags =>
    rintro _ hcommand
    obtain ⟨entry, hentry, rfl⟩ := List.mem_map.mp hcommand
    have hperm : (["help", "version"] ++
        ((Declared.parameters entry.blueprint).map Parameter.name ++
          Switch.all.map Switch.flag)).Perm
            ((Declared.parameters entry.blueprint).map Parameter.name ++ Name.reservedFlags) := by
      refine List.perm_append_comm.trans (.of_eq ?_)
      rw [List.append_assoc]
      rfl
    rw [map_flag_level_program]
    exact hperm.nodup_iff.mpr (names.names entry hentry).flags.nodup_append
  case letters =>
    rintro _ hcommand
    obtain ⟨entry, hentry, rfl⟩ := List.mem_map.mp hcommand
    rw [filterMap_letter?_level_program]
    decide
  case spelt =>
    rintro _ hcommand argument hargument
    obtain ⟨entry, hentry, rfl⟩ := List.mem_map.mp hcommand
    rw [arguments_level_program] at hargument
    obtain hargument | hargument := List.mem_append.mp hargument
    · obtain ⟨parameter, hparameter, rfl⟩ := List.mem_map.mp hargument
      have hvalid := (names.names entry hentry).flags.valid parameter hparameter
      rw [parameter.flag_argument]
      exact ⟨Name.ne_empty_of_isValid hvalid, Name.equals_notMem_of_isValid hvalid⟩
    · obtain ⟨switch, -, rfl⟩ := List.mem_map.mp hargument
      cases switch <;> decide
  case shared =>
    intro argument hargument
    obtain ⟨switch, -, rfl⟩ := List.mem_map.mp hargument
    exact ⟨rfl, rfl⟩

end Registry

end Scaffold
