import Mathlib.Data.List.Perm.Basic
import Scaffold.Blueprint.Fixed
import Scaffold.Proofs.CommandLine.Following
import Scaffold.Proofs.Options

/-!
# Options through the command line

Options that suit the parameters of a blueprint can be written as words and read back unchanged by
whoever follows the grammar of long flags. The argument of a parameter reads exactly the values that
the parameter accepts, so every word is complete, and the words can stand in any order with the
switches on either side of the command.
-/

namespace Scaffold

/-- Options that can be given for parameters. -/
structure Options.Suits (options : Options) (parameters : List Parameter) : Prop where
  /-- The entries stand in the order of their names, each name once. -/
  ordered : options.Ordered
  /-- Each value fits the parameter of its name. -/
  accepted : ∀ entry ∈ options.entries, ∃ parameter ∈ parameters,
    parameter.name = entry.1 ∧ parameter.accepts entry.2 = true
  /-- No parameter is missing that only the command line can give. -/
  needed : ∀ parameter ∈ parameters, parameter.isFlagOnly = true →
    options.contains parameter.name = true

/-- The value of an option as that of an argument. -/
def OptionValue.argument : OptionValue → ArgumentValue
  | .flag value => .truth value
  | .text value => .text value

namespace Parameter

variable {parameter : Parameter} {option : OptionValue}

/-- The text of a value that fits a parameter says this value. -/
theorem valueOf?_argument_render (accepted : parameter.accepts option = true) :
    parameter.argument.valueOf? (some option.render) = some option.argument := by
  rw [accepts, Option.isNone_iff_eq_none] at accepted
  cases option with
  | flag value =>
    cases hkind : parameter.kind with
    | boolean => cases value <;> simp [argument, hkind] <;> rfl
    | text | choice | file | directory => simp [fault?, hkind] at accepted
  | text value =>
    cases hkind : parameter.kind with
    | boolean => simp [fault?, hkind] at accepted
    | choice choices =>
      have hchoice : choices.contains value = true := by simpa [fault?, hkind] using accepted
      simp only [argument, hkind, ArgumentSpec.valueOf?, Option.some_or, Option.bind_some,
        ValueReader.read?, OptionValue.render, hchoice, if_true]
      rfl
    | text | file | directory =>
      simp only [argument, hkind]
      rfl

/-- What is read for the argument of a parameter fits the parameter. -/
theorem exists_accepts_of_valueOf? {text? : Option String} {value : ArgumentValue}
    (h : parameter.argument.valueOf? text? = some value) :
    ∃ option : OptionValue, option.argument = value ∧ parameter.accepts option = true := by
  obtain ⟨text, -, hread⟩ := Option.bind_eq_some_iff.mp h
  cases hkind : parameter.kind with
  | boolean =>
    simp only [argument, hkind, ValueReader.read?] at hread
    obtain ⟨flag, rfl⟩ : ∃ flag, value = .truth flag := by
      split at hread
      · exact ⟨true, (Option.some.inj hread).symm⟩
      · split at hread
        · exact ⟨false, (Option.some.inj hread).symm⟩
        · cases hread
    exact ⟨.flag flag, rfl, by simp [accepts, fault?, hkind]⟩
  | choice choices =>
    simp only [argument, hkind, ValueReader.read?] at hread
    split at hread
    case isTrue hchoice =>
      cases hread
      refine ⟨.text text, rfl, ?_⟩
      simp only [accepts, fault?, hkind, hchoice, if_true, Option.isNone_none]
    case isFalse => cases hread
  | text | file | directory =>
    simp only [argument, hkind, ValueReader.read?, Option.some.injEq] at hread
    exact ⟨.text text, hread, by simp [accepts, fault?, hkind]⟩

end Parameter

namespace ArgumentMatches

variable {found : ArgumentMatches} {parameter : Parameter}

/-- A value that fits its parameter and that a word says is taken for the parameter. -/
theorem option?_of_accepts {option : OptionValue} (accepted : parameter.accepts option = true)
    (h : found.find? parameter.name = some ⟨option.argument, .commandLine⟩) :
    found.option? parameter = some option := by
  rw [Parameter.accepts, Option.isNone_iff_eq_none] at accepted
  cases option <;> cases hkind : parameter.kind <;>
    simp_all [option?, source?, truth?, text?, Parameter.fault?, OptionValue.argument]

/-- Where nothing is found nothing is taken. -/
theorem option?_of_find?_eq_none (h : found.find? parameter.name = none) :
    found.option? parameter = none := by
  cases hkind : parameter.kind <;> simp [option?, hkind, source?, text?, h]

/-- A switch is what is found of it. -/
theorem isOn_of_find? {flag : String} {value : Bool} {source : ValueSource}
    (h : found.find? flag = some ⟨.truth value, source⟩) : found.isOn flag = value := by
  rw [isOn, truth?, h]
  rfl

end ArgumentMatches

namespace Options.Suits

variable {options : Options} {parameters : List Parameter}

/-- With distinct names, each parameter accepts the value that the options hold for it. -/
theorem accepts (suits : options.Suits parameters)
    (distinct : (parameters.map Parameter.name).Nodup) {parameter : Parameter}
    (hparameter : parameter ∈ parameters) {value : OptionValue}
    (hvalue : options.find? parameter.name = some value) : parameter.accepts value = true := by
  obtain ⟨other, hother, hname, haccepts⟩ := suits.accepted _ (mem_of_lookup hvalue)
  have hsame : other = parameter := List.inj_on_of_nodup_map distinct hother hparameter hname
  exact hsame ▸ haccepts

/-- The options are the values that they hold for the parameters. -/
theorem perm_filterMap (suits : options.Suits parameters)
    (distinct : (parameters.map Parameter.name).Nodup) :
    (parameters.filterMap fun parameter =>
      (options.find? parameter.name).map (parameter.name, ·)).Perm options.entries := by
  refine (List.perm_ext_iff_of_nodup (.of_map _ (nodup_map_fst_filterMap distinct))
    (.of_map _ suits.ordered.nodup)).mpr fun entry => ?_
  rw [List.mem_filterMap]
  constructor
  · rintro ⟨parameter, -, hentry⟩
    obtain ⟨value, hvalue, rfl⟩ := Option.map_eq_some_iff.mp hentry
    exact mem_of_lookup hvalue
  · intro hentry
    obtain ⟨parameter, hparameter, hname, -⟩ := suits.accepted entry hentry
    have hvalue : options.find? entry.1 = some entry.2 := lookup_of_mem suits.ordered.nodup hentry
    exact ⟨parameter, hparameter, by rw [hname, hvalue]; rfl⟩

end Options.Suits

namespace GivenArgument

/-- A switch given by its flag. -/
def ofSwitch (switch : Switch) : GivenArgument := ⟨switch.argument, none⟩

/-- The options that are given for parameters. -/
def ofOptions (parameters : List Parameter) (options : Options) : List GivenArgument :=
  parameters.filterMap fun parameter =>
    (options.find? parameter.name).map fun value => ⟨parameter.argument, some value.render⟩

/-- A switch is complete in its word. -/
theorem isComplete_ofSwitch (switch : Switch) : (ofSwitch switch).IsComplete where
  joined hjoined := by cases hjoined
  alone _ htakes := by cases htakes
  readable := rfl

section Options

variable {parameters : List Parameter} {options : Options} {word : GivenArgument}

/-- Each option that is told is given by the flag of its parameter. -/
theorem mem_ofOptions_iff : word ∈ ofOptions parameters options ↔
    ∃ parameter ∈ parameters, ∃ value, options.find? parameter.name = some value ∧
      word = ⟨parameter.argument, some value.render⟩ := by
  simp only [ofOptions, List.mem_filterMap, Option.map_eq_some_iff, @eq_comm _ word]

/-- The flags of the options given are their names. -/
theorem map_flag_ofOptions : (ofOptions parameters options).map flag =
    (parameters.filterMap fun parameter =>
      (options.find? parameter.name).map (parameter.name, ·)).map Prod.fst := by
  rw [ofOptions, List.map_filterMap, List.map_filterMap]
  refine congrArg (List.filterMap · parameters) (funext fun parameter => ?_)
  cases options.find? parameter.name <;> simp [flag]

/-- The words of the options given are those of their entries. -/
theorem map_word_ofOptions : (ofOptions parameters options).map GivenArgument.word =
    (parameters.filterMap fun parameter =>
      (options.find? parameter.name).map (parameter.name, ·)).map optionWord := by
  rw [ofOptions, List.map_filterMap, List.map_filterMap]
  refine congrArg (List.filterMap · parameters) (funext fun parameter => ?_)
  cases options.find? parameter.name <;> simp [GivenArgument.word, flagWord, optionWord]

/-- Options that suit the parameters are complete in their words. -/
theorem isComplete_of_mem_ofOptions (suits : options.Suits parameters)
    (distinct : (parameters.map Parameter.name).Nodup) (h : word ∈ ofOptions parameters options) :
    word.IsComplete := by
  obtain ⟨parameter, hparameter, value, hvalue, rfl⟩ := mem_ofOptions_iff.mp h
  refine ⟨fun _ => parameter.takesValue_argument, nofun, ?_⟩
  rw [value?, Parameter.valueOf?_argument_render (suits.accepts distinct hparameter hvalue)]
  rfl

end Options

section Given

variable {parameters : List Parameter} (names : FlagNames parameters) {options : Options}
  (hoptions : options.Suits parameters) {switches : List Switch} (hswitches : switches.Nodup)
  {given : List GivenArgument}
  (hgiven : given.Perm (ofOptions parameters options ++ switches.map ofSwitch))
include names hswitches hgiven

/-- No parameter has the flag of a switch, so no flag is given twice. -/
theorem nodup_flags : (given.map flag).Nodup := by
  refine (hgiven.map flag).nodup_iff.mpr ?_
  rw [List.map_append, List.map_map, map_flag_ofOptions]
  refine List.nodup_append.mpr ⟨nodup_map_fst_filterMap names.distinct,
    hswitches.map Switch.flag_injective, ?_⟩
  rintro _ hoption _ hswitch rfl
  rw [map_fst_filterMap] at hoption
  obtain ⟨parameter, hparameter, hname⟩ := List.mem_map.mp hoption
  obtain ⟨switch, -, hflag⟩ := List.mem_map.mp hswitch
  refine names.free parameter (List.mem_filter.mp hparameter).1 ?_
  rw [hname, ← hflag]
  exact switch.flag_mem_reservedFlags

/-- A switch is on if it is given. -/
theorem found?_switch (switch : Switch) : ∃ source,
    found? given switch.argument = some ⟨.truth (switches.contains switch), source⟩ := by
  by_cases hswitch : switch ∈ switches
  · have hword : ofSwitch switch ∈ given :=
      hgiven.mem_iff.mpr (List.mem_append_right _ (List.mem_map_of_mem hswitch))
    have hfound : found? given switch.argument = some ⟨.truth true, .commandLine⟩ :=
      found?_of_mem (nodup_flags names hswitches hgiven) hword rfl
    exact ⟨.commandLine, by rw [hfound, List.contains_iff_mem.mpr hswitch]⟩
  · have hnone : switch.argument.flag ∉ given.map flag := by
      intro hflag
      obtain ⟨word, hword, hflag⟩ := List.mem_map.mp hflag
      obtain hoption | hother := List.mem_append.mp (hgiven.mem_iff.mp hword)
      · obtain ⟨parameter, hparameter, value, -, rfl⟩ := mem_ofOptions_iff.mp hoption
        rw [flag, parameter.flag_argument] at hflag
        exact names.free parameter hparameter (hflag ▸ switch.flag_mem_reservedFlags)
      · obtain ⟨other, hmem, rfl⟩ := List.mem_map.mp hother
        exact hswitch (Switch.flag_injective hflag ▸ hmem)
    have hcontains : switches.contains switch = false :=
      Bool.eq_false_iff.mpr (mt List.contains_iff_mem.mp hswitch)
    exact ⟨.default, by rw [found?_of_notMem hnone, hcontains]; rfl⟩

include hoptions

/-- Of a parameter the value that the options hold for it is found. -/
theorem found?_parameter {parameter : Parameter} (hparameter : parameter ∈ parameters) :
    found? given parameter.argument = (options.find? parameter.name).map fun value =>
      MatchedArgument.mk value.argument .commandLine := by
  have hdistinct := nodup_flags names hswitches hgiven
  cases hvalue : options.find? parameter.name with
  | some value =>
    have hword : GivenArgument.mk parameter.argument (some value.render) ∈ given :=
      hgiven.mem_iff.mpr (List.mem_append_left _
        (mem_ofOptions_iff.mpr ⟨parameter, hparameter, value, hvalue, rfl⟩))
    have haccepts := hoptions.accepts names.distinct hparameter hvalue
    rw [found?_of_mem hdistinct hword rfl, value?, Parameter.valueOf?_argument_render haccepts]
    rfl
  | none =>
    have hnone : parameter.argument.flag ∉ given.map flag := by
      rw [parameter.flag_argument]
      intro hflag
      obtain ⟨word, hword, hflag⟩ := List.mem_map.mp hflag
      obtain hoption | hswitch := List.mem_append.mp (hgiven.mem_iff.mp hword)
      · obtain ⟨other, -, value, hother, rfl⟩ := mem_ofOptions_iff.mp hoption
        rw [flag, other.flag_argument] at hflag
        rw [hflag, hvalue] at hother
        cases hother
      · obtain ⟨switch, -, rfl⟩ := List.mem_map.mp hswitch
        have hreserved : switch.flag = parameter.name := hflag
        exact names.free parameter hparameter (hreserved ▸ switch.flag_mem_reservedFlags)
    rw [found?_of_notMem hnone, parameter.unspoken?_argument]
    rfl

/-- Options that were given are taken back from what is found. -/
theorem options_of_found? {found : ArgumentMatches}
    (hfound : ∀ parameter ∈ parameters,
      found.find? parameter.argument.flag = found? given parameter.argument) :
    found.options parameters = options := by
  have hoption : ∀ parameter ∈ parameters,
      found.option? parameter = options.find? parameter.name := by
    intro parameter hparameter
    have hfind := hfound parameter hparameter
    rw [found?_parameter names hoptions hswitches hgiven hparameter,
      parameter.flag_argument] at hfind
    cases hvalue : options.find? parameter.name with
    | some value =>
      rw [hvalue] at hfind
      exact ArgumentMatches.option?_of_accepts
        (hoptions.accepts names.distinct hparameter hvalue) hfind
    | none =>
      rw [hvalue] at hfind
      exact ArgumentMatches.option?_of_find?_eq_none hfind
  have hsame : (parameters.filterMap fun parameter =>
      (found.option? parameter).map (parameter.name, ·)) =
        parameters.filterMap fun parameter =>
          (options.find? parameter.name).map (parameter.name, ·) :=
    List.filterMap_congr fun parameter hparameter => by rw [hoption parameter hparameter]
  rw [ArgumentMatches.options, hsame]
  exact hoptions.ordered.ofList_eq (hoptions.perm_filterMap names.distinct)

end Given

/-- Words in some order are those of arguments in some order. -/
theorem exists_perm_of_words {arguments : List GivenArgument} {words : List String}
    (hwords : words.Perm (arguments.map GivenArgument.word)) :
    ∃ given : List GivenArgument, words = given.map GivenArgument.word ∧ given.Perm arguments := by
  have hcomp : Relation.Comp (· = List.map GivenArgument.word ·) (List.Perm · ·) words
      arguments := by
    rw [List.eq_map_comp_perm]
    exact hwords
  exact hcomp

end GivenArgument

namespace Invocation

variable {β : Type} [Declared β] {registry : Registry β}

section Given

variable (names : registry.WellNamed) {entry : RegistryEntry β} (hentry : entry ∈ registry.entries)
  {options : Options} (hoptions : options.Suits (Declared.parameters entry.blueprint))
  {before after : List Switch} (hswitches : (before ++ after).Nodup) {behind : List GivenArgument}
  (hbehind : behind.Perm (GivenArgument.ofOptions (Declared.parameters entry.blueprint) options ++
    after.map GivenArgument.ofSwitch))
include names hentry hoptions hswitches hbehind

omit names hentry hoptions hswitches in
/-- What is given before and behind the command are the options and all switches. -/
theorem perm_given : (before.map GivenArgument.ofSwitch ++ behind).Perm
    (GivenArgument.ofOptions (Declared.parameters entry.blueprint) options ++
      (before ++ after).map GivenArgument.ofSwitch) := by
  rw [List.map_append]
  refine (hbehind.append_left _).trans ?_
  rw [← List.append_assoc, ← List.append_assoc]
  exact List.perm_append_comm.append_right _

/-- Switches, and options that suit the parameters of a registered blueprint, can be given to its
command. -/
theorem takes_of_suits {name about version : String} :
    (registry.program name about version).Takes entry.command (before.map GivenArgument.ofSwitch)
      behind := by
  have hflags := (names.names entry hentry).flags
  have hmem (word : GivenArgument) : word ∈ behind ↔
      word ∈ GivenArgument.ofOptions (Declared.parameters entry.blueprint) options ∨
        ∃ switch ∈ after, GivenArgument.ofSwitch switch = word := by
    rw [hbehind.mem_iff, List.mem_append, List.mem_map]
  constructor
  case chosen => exact List.mem_map_of_mem hentry
  case outer =>
    intro word hword
    obtain ⟨switch, -, rfl⟩ := List.mem_map.mp hword
    rw [Registry.globals_program]
    exact List.mem_map_of_mem switch.mem_all
  case inner =>
    intro word hword
    rw [Registry.arguments_level_program]
    obtain hoption | ⟨switch, -, rfl⟩ := (hmem word).mp hword
    · obtain ⟨parameter, hparameter, value, -, rfl⟩ := GivenArgument.mem_ofOptions_iff.mp hoption
      exact List.mem_append_left _ (List.mem_map_of_mem hparameter)
    · exact List.mem_append_right _ (List.mem_map_of_mem switch.mem_all)
  case complete =>
    refine List.forall_mem_append.mpr ⟨fun word hword => ?_, fun word hword => ?_⟩
    · obtain ⟨switch, -, rfl⟩ := List.mem_map.mp hword
      exact GivenArgument.isComplete_ofSwitch switch
    · obtain hoption | ⟨switch, -, rfl⟩ := (hmem word).mp hword
      · exact GivenArgument.isComplete_of_mem_ofOptions hoptions hflags.distinct hoption
      · exact GivenArgument.isComplete_ofSwitch switch
  case distinct => exact GivenArgument.nodup_flags hflags hswitches (perm_given hbehind)
  case needed =>
    intro argument hargument hrequired
    obtain ⟨parameter, hparameter, rfl⟩ := List.mem_map.mp hargument
    rw [parameter.required_argument] at hrequired
    obtain ⟨value, hvalue⟩ :=
      Option.isSome_iff_exists.mp (hoptions.needed parameter hparameter hrequired)
    refine List.mem_map.mpr ⟨⟨parameter.argument, some value.render⟩, (hmem _).mpr (.inl ?_), rfl⟩
    exact GivenArgument.mem_ofOptions_iff.mpr ⟨parameter, hparameter, value, hvalue, rfl⟩

end Given

/-- Options and switches go through the command line unchanged, whoever follows the grammar of long
flags. The words of the options and of the switches behind the command can stand in any order. -/
theorem parse_carries_options {reader : ArgumentReader} (grammar : reader.FollowsGrammar)
    (names : registry.WellNamed) {entry : RegistryEntry β} (hentry : entry ∈ registry.entries)
    {options : Options} (hoptions : options.Suits (Declared.parameters entry.blueprint))
    {before after : List Switch} (hswitches : (before ++ after).Nodup) {given : List String}
    (hgiven : given.Perm (options.entries.map optionWord ++ after.map Switch.word))
    (binary : String) (product : Product) :
    parse registry (binary :: before.map Switch.word ++ entry.name :: given) product reader =
      .ok ⟨some entry.name, options, (before ++ after).contains .yes,
        (before ++ after).contains .dryRun, (before ++ after).contains .verbose⟩ := by
  have hflags := (names.names entry hentry).flags
  have hentries := (hoptions.perm_filterMap hflags.distinct).map optionWord
  have hwords : given.Perm
      ((GivenArgument.ofOptions (Declared.parameters entry.blueprint) options ++
        after.map GivenArgument.ofSwitch).map GivenArgument.word) := by
    rw [List.map_append, GivenArgument.map_word_ofOptions, List.map_map]
    exact hgiven.trans (hentries.symm.append_right _)
  obtain ⟨behind, rfl, hbehind⟩ := GivenArgument.exists_perm_of_words hwords
  have hall : (before.map GivenArgument.ofSwitch ++ behind).Perm _ := perm_given hbehind
  obtain ⟨outer, inner, hread, houter, hinner⟩ := grammar.follows
    (names.isWellFormed_program product.name product.about product.version)
    (takes_of_suits names hentry hoptions hswitches hbehind) binary
  rw [Registry.arguments_level_program, List.forall_mem_append, List.forall_mem_map,
    List.forall_mem_map] at hinner
  rw [Registry.globals_program, List.forall_mem_map] at houter
  have hoption : inner.options (Declared.parameters entry.blueprint) = options :=
    GivenArgument.options_of_found? hflags hoptions hswitches hall hinner.1
  have hon (switch : Switch) : (outer.isOn switch.flag || inner.isOn switch.flag) =
      (before ++ after).contains switch := by
    obtain ⟨source, hfound⟩ := GivenArgument.found?_switch hflags hswitches hall switch
    have hfirst := ArgumentMatches.isOn_of_find? ((houter switch switch.mem_all).trans hfound)
    have hlast := ArgumentMatches.isOn_of_find? ((hinner.2 switch switch.mem_all).trans hfound)
    exact (congrArg₂ or hfirst hlast).trans (Bool.or_self _)
  have hbefore : (before.map GivenArgument.ofSwitch).map GivenArgument.word =
      before.map Switch.word := List.map_map
  rw [hbefore] at hread
  have hname : (entry.command).name = entry.name := rfl
  rw [hname] at hread
  rw [parse, hread]
  simp only [bind, Except.bind, pure, Except.pure, ofMatches, names.find?_name hentry, hoption, hon]

/-- A blueprint with a parameter of each way to read a value. -/
def component : FixedBlueprint :=
  ⟨"component", "Generate a component",
    [⟨"name", .text, "Component name", true, true, none⟩,
      ⟨"out", .directory, "Output directory", true, false, none⟩,
      ⟨"style", .choice ["plain", "styled"], "Style", false, false, none⟩,
      ⟨"tests", .boolean, "Generate tests", false, false, some (.flag true)⟩],
    true, [], none, none, none⟩

/-- A registry with this blueprint alone. -/
def componentRegistry : Registry FixedBlueprint := ⟨[⟨component, .builtIn, true⟩], []⟩

/-- The commands and flags of the component can be told apart. -/
theorem componentRegistry_wellNamed : componentRegistry.WellNamed :=
  ⟨List.forall_mem_singleton.mpr ⟨by decide +kernel, by decide,
    ⟨by decide +kernel, by decide, by decide⟩⟩, by decide⟩

/-- Values that look like flags, hold an equals sign or are empty. -/
def componentOptions : Options :=
  ⟨[("name", .text "--é=b"), ("out", .text ""), ("style", .text "plain"), ("tests", .flag false)]⟩

/-- The reader of this library carries these values, with a switch on either side of the command. -/
theorem parse_carries_componentOptions :
    parse componentRegistry ["blueprint", "--verbose", "component", "--tests=false", "--yes",
        "--out=", "--style=plain", "--name=--é=b"] =
      .ok ⟨some "component", componentOptions, true, false, true⟩ := by
  have suits : componentOptions.Suits component.parameters :=
    ⟨by unfold Options.Ordered; decide, by decide, by decide⟩
  exact @parse_carries_options FixedBlueprint _ componentRegistry _ ProgramSpec.read_followsGrammar
    componentRegistry_wellNamed ⟨component, .builtIn, true⟩ List.mem_cons_self componentOptions
    suits [.verbose] [.yes] (by decide)
    ["--tests=false", "--yes", "--out=", "--style=plain", "--name=--é=b"] (by decide) "blueprint"
    Product.tools

end Invocation

end Scaffold
