import Mathlib.Data.List.Nodup
import Scaffold.Proofs.CommandLine.Backing
import Scaffold.Proofs.CommandLine.RoundTrip
import Scaffold.Proofs.Lifecycle.Completion
import Scaffold.Proofs.Lifecycle.Steps
import Scaffold.Proofs.Registry
import Scaffold.Proofs.Result

/-!
# What a command line lets through

A command line that is followed to its end leaves options that suit the parameters of the blueprint
chosen, whichever words it is made of and whoever follows them, as long as only what the words say
is found. Each value was given by a word of its flag and was read as a value that its parameter
accepts, so a run that takes the options over can only miss a value that the command line does not
ask for.
-/

namespace Scaffold

namespace ArgumentMatches

variable {found : ArgumentMatches} {words : List String} {parameters : List Parameter}

/-- What is taken for a parameter fits it, and a word gave its flag. -/
theorem option?_of_isFoundIn {parameter : Parameter}
    (hfound : parameter.argument.IsFoundIn words (found.find? parameter.name)) :
    (∃ option, found.option? parameter = some option ∧ parameter.accepts option = true ∧
      ∃ word ∈ words, GivesFlag parameter.name word) ∨
    (found.option? parameter = none ∧ parameter.isFlagOnly = false) := by
  generalize hfind : found.find? parameter.name = matched at hfound
  cases hfound with
  | @given word hword hgives text? value hread =>
    obtain ⟨option, rfl, haccepts⟩ := Parameter.exists_accepts_of_valueOf? hread
    refine .inl ⟨option, option?_of_accepts haccepts hfind, haccepts, word, hword, ?_⟩
    obtain hflag | ⟨letter, hletter, -⟩ := hgives
    · rwa [parameter.flag_argument] at hflag
    · rw [parameter.letter?_argument] at hletter
      cases hletter
  | absent hneeded =>
    rw [parameter.unspoken?_argument] at hfind
    rw [parameter.required_argument] at hneeded
    exact .inr ⟨option?_of_find?_eq_none hfind, hneeded⟩

section Options

variable (distinct : (parameters.map Parameter.name).Nodup)
include distinct

/-- The options taken are the values found for the parameters. -/
theorem perm_options : (found.options parameters).entries.Perm
    (parameters.filterMap fun parameter =>
      (found.option? parameter).map (parameter.name, ·)) := by
  have hkeys : ((parameters.filterMap fun parameter =>
      (found.option? parameter).map (parameter.name, ·)).map Prod.fst).Nodup :=
    nodup_map_fst_filterMap distinct
  have hperm := @Options.perm_insertAll _ .empty hkeys fun _ _ => List.not_mem_nil
  rwa [Options.empty, List.append_nil] at hperm

/-- The value of a parameter among the options is the one found for it. -/
theorem find?_options {parameter : Parameter} (hparameter : parameter ∈ parameters) :
    (found.options parameters).find? parameter.name = found.option? parameter := by
  rw [Options.find?, lookup_perm (nodup_map_fst_filterMap distinct) (perm_options distinct),
    lookup_filterMap distinct hparameter]

/-- Only parameters have values among the options. -/
theorem find?_options_of_notMem {name : String} (h : name ∉ parameters.map Parameter.name) :
    (found.options parameters).find? name = none := by
  rw [Options.find?, lookup_perm (nodup_map_fst_filterMap distinct) (perm_options distinct),
    lookup_filterMap_of_notMem h]

/-- Options that are found among words suit the parameters. -/
theorem suits_options (hfound : ∀ parameter ∈ parameters,
    parameter.argument.IsFoundIn words (found.find? parameter.name)) :
    (found.options parameters).Suits parameters where
  ordered := Options.ordered_insertAll .nil
  accepted entry hentry := by
    obtain ⟨parameter, hparameter, hpair⟩ :=
      List.mem_filterMap.mp ((perm_options distinct).mem_iff.mp hentry)
    obtain ⟨value, hvalue, rfl⟩ := Option.map_eq_some_iff.mp hpair
    obtain ⟨option, hoption, haccepts, -⟩ | ⟨hnone, -⟩ :=
      option?_of_isFoundIn (hfound parameter hparameter)
    · rw [hvalue] at hoption
      cases hoption
      exact ⟨parameter, hparameter, rfl, haccepts⟩
    · rw [hvalue] at hnone
      cases hnone
  needed parameter hparameter hflag := by
    rw [Options.contains, find?_options distinct hparameter]
    obtain ⟨option, hoption, -⟩ | ⟨-, hneeded⟩ :=
      option?_of_isFoundIn (hfound parameter hparameter)
    · rw [hoption]
      rfl
    · rw [hflag] at hneeded
      cases hneeded

/-- A name whose flag no word gives has no value among the options. -/
theorem find?_options_of_not_givesFlag (hfound : ∀ parameter ∈ parameters,
    parameter.argument.IsFoundIn words (found.find? parameter.name)) {name : String}
    (hmissing : ∀ word ∈ words, ¬GivesFlag name word) :
    (found.options parameters).find? name = none := by
  by_cases hname : name ∈ parameters.map Parameter.name
  · obtain ⟨parameter, hparameter, rfl⟩ := List.mem_map.mp hname
    rw [find?_options distinct hparameter]
    obtain ⟨option, -, -, word, hword, hgives⟩ | ⟨hnone, -⟩ :=
      option?_of_isFoundIn (hfound parameter hparameter)
    · exact absurd hgives (hmissing word hword)
    · exact hnone
  · exact find?_options_of_notMem distinct hname

end Options

end ArgumentMatches

namespace Options.Suits

variable {options : Options} {parameters : List Parameter}

/-- What suitable options lack may be asked for. -/
theorem ask_of_lacks (suits : options.Suits parameters) {parameter : Parameter}
    (hparameter : parameter ∈ parameters) (hlacks : options.Lacks parameter) :
    parameter.ask = true := by
  obtain ⟨hrequire, -, hmissing⟩ := hlacks
  rw [← Bool.not_eq_false]
  intro hask
  have hflagOnly : parameter.isFlagOnly = true := by
    rw [Parameter.isFlagOnly, hrequire, hask]
    rfl
  have hneeded := suits.needed parameter hparameter hflagOnly
  rw [Options.contains, hmissing] at hneeded
  cases hneeded

end Options.Suits

namespace Invocation

variable {β : Type} [Declared β] {registry : Registry β}

/-- A command line that chooses a blueprint chooses a registered one. -/
theorem exists_entry {product : Product} {reader : ArgumentReader} (sound : reader.IsSound)
    (names : registry.WellNamed) {words : List String} {invocation : Invocation} {name : String}
    (hparse : parse registry words product reader = .ok invocation)
    (hname : invocation.blueprint? = some name) :
    ∃ entry ∈ registry.entries, ∃ inner : ArgumentMatches, entry.name = name ∧
      invocation.options = inner.options (Declared.parameters entry.blueprint) ∧
      ∀ parameter ∈ Declared.parameters entry.blueprint,
        parameter.argument.IsFoundIn words.tail (inner.find? parameter.name) := by
  obtain ⟨⟨outer, command?⟩, hread, hfound⟩ := exists_of_bind_eq_ok hparse
  cases hfound
  cases command? with
  | none => cases hname
  | some chosen =>
    obtain ⟨chosen, inner⟩ := chosen
    cases hname
    obtain ⟨command, hcommand, hname, hinner⟩ :=
      sound.sound (names.isWellFormed_program _ _ _) hread
    obtain ⟨entry, hentry, rfl⟩ := List.mem_map.mp hcommand
    have hname : entry.name = name := hname
    refine ⟨entry, hentry, inner, hname, ?_, fun parameter hparameter => ?_⟩
    · rw [← hname, ofMatches]
      simp only [names.find?_name hentry]
    · have h := hinner parameter.argument (List.mem_map_of_mem hparameter)
      rwa [parameter.flag_argument] at h

/-- A command line that chooses a blueprint chooses a registered one, and its options suit the
parameters of this blueprint: they hold values of its parameters only, each accepted by its
parameter and given by its flag, and none is missing that cannot be asked for. A run whose
parameters accept their own defaults takes these options over, unless a required parameter that
can be asked for has neither a value nor a default. -/
theorem parse_lets_through_suitable {reader : ArgumentReader} (sound : reader.IsSound)
    (names : registry.WellNamed) {words : List String} {product : Product}
    {invocation : Invocation} (hparse : parse registry words product reader = .ok invocation)
    {name : String} (hname : invocation.blueprint? = some name) :
    ∃ entry, registry.take name = .ok entry ∧ entry.name = name ∧
      invocation.options.Suits (Declared.parameters entry.blueprint) ∧
      (∀ parameter, (∀ word ∈ words.tail, ¬GivesFlag parameter word) →
        invocation.options.find? parameter = none) ∧
      ((∀ parameter ∈ Declared.parameters entry.blueprint, ∀ value,
          parameter.default? = some value → parameter.accepts value = true) →
        ∀ {ω : Type} (session : Session β ω), session.run.blueprint = entry.blueprint →
          session.run.state = .preconditionChecked →
          (∃ completed, Session.acceptOptions invocation.options session =
              .ok () ((session.withOptions completed).withState .optionsGathered) ∧
            ∀ parameter ∈ Declared.parameters entry.blueprint,
              ¬invocation.options.Lacks parameter) ∨
          ∃ parameter ∈ Declared.parameters entry.blueprint, parameter.ask = true ∧
            invocation.options.Lacks parameter ∧
            Session.acceptOptions invocation.options session =
              .error (.validation parameter.unspecified) session) := by
  obtain ⟨entry, hentry, inner, rfl, hoptions, hfound⟩ := exists_entry sound names hparse hname
  have hflags := (names.names entry hentry).flags
  have suits := ArgumentMatches.suits_options hflags.distinct hfound
  rw [← hoptions] at suits
  refine ⟨entry, ?_, rfl, suits, ?_, ?_⟩
  case refine_1 => rw [Registry.take_eq_get, Registry.get, names.find?_name hentry]
  case refine_2 =>
    intro parameter hmissing
    rw [hoptions]
    exact ArgumentMatches.find?_options_of_not_givesFlag hflags.distinct hfound hmissing
  case refine_3 =>
    intro hdefaults ω session hblueprint hstate
    have hgiven : ∀ parameter ∈ Declared.parameters entry.blueprint, ∀ value,
        invocation.options.find? parameter.name = some value → parameter.accepts value = true :=
      fun parameter hparameter value => suits.accepts hflags.distinct hparameter
    rcases Options.complete_of_accepts hflags.distinct hgiven hdefaults with hdone | hlacking
    · obtain ⟨completed, hcomplete, hnone⟩ := hdone
      rw [← hblueprint] at hcomplete
      exact .inl ⟨completed, Session.acceptOptions_of_complete hstate hcomplete, hnone⟩
    · obtain ⟨parameter, hparameter, hlacks, hcomplaint⟩ := hlacking
      rw [← hblueprint] at hcomplaint
      exact .inr ⟨parameter, hparameter, suits.ask_of_lacks hparameter hlacks, hlacks,
        Session.acceptOptions_of_complaint hstate hcomplaint⟩

/-- The options of a command line that gives the directory in a word of its own. -/
def directoryOptions : Options := ⟨[("out", .text "src")]⟩

/-- A run of the component that is about to take options over. -/
def componentSession : Session FixedBlueprint Unit :=
  ⟨{ BlueprintRun.start component with state := .preconditionChecked }, ()⟩

/-- A command line that gives one option, of two parameters of which the other has a default. -/
theorem parse_lets_through_directoryOptions :
    parse componentRegistry ["blueprint", "component", "--out", "src", "-y"] =
        .ok ⟨some "component", directoryOptions, true, false, false⟩ ∧
      directoryOptions.Suits component.parameters ∧
      directoryOptions.find? "tests" = none ∧
      ∃ parameter ∈ component.parameters, parameter.ask = true ∧
        directoryOptions.Lacks parameter ∧
        Session.acceptOptions directoryOptions componentSession =
          .error (.validation parameter.unspecified) componentSession := by
  have hparse : parse componentRegistry ["blueprint", "component", "--out", "src", "-y"] =
      .ok ⟨some "component", directoryOptions, true, false, false⟩ := by decide +kernel
  obtain ⟨entry, htake, -, suits, habsent, haccept⟩ :=
    parse_lets_through_suitable ProgramSpec.read_isSound componentRegistry_wellNamed hparse rfl
  cases htake
  refine ⟨hparse, suits, habsent "tests" (by decide), ?_⟩
  rcases haccept (by decide) componentSession rfl rfl with ⟨-, -, hnone⟩ | hlacking
  · exact absurd ⟨rfl, rfl, rfl⟩ (hnone _ List.mem_cons_self)
  · exact hlacking

end Invocation

end Scaffold
