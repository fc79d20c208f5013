import Scaffold.Proofs.CommandLine.Grammar

/-!
# Following long flags

The reader of this library follows the grammar of long flags. Each word that is complete adds one
value and leaves nothing waiting, so the values after many words are those of the words, on either
side of the command. What is found of an argument of every command is then the same at both levels.
-/

namespace Scaffold

namespace GivenArgument

/-- The values that words say, by their flags. -/
def entries (given : List GivenArgument) : List (String × ArgumentValue) :=
  given.filterMap fun word => word.value?.map (word.flag, ·)

/-- A word with a value is an entry before the others. -/
theorem entries_cons {word : GivenArgument} {value : ArgumentValue}
    (hvalue : word.value? = some value) (rest : List GivenArgument) : entries (word :: rest) = (word.flag, value) :: entries rest := by
  simp [entries, hvalue]

/-- What is found of an argument where each one is given once is looked up among the values. -/
theorem found?_eq {given : List GivenArgument} (distinct : (given.map flag).Nodup)
    (complete : ∀ word ∈ given, word.IsComplete) (argument : ArgumentSpec) :
    found? given argument =
      (((entries given).reverse.lookup argument.flag).map (MatchedArgument.mk · .commandLine)).or
        argument.unspoken? := by
  rw [lookup_perm (nodup_map_fst_filterMap distinct) (List.reverse_perm (entries given))]
  by_cases h : argument.flag ∈ given.map flag
  · obtain ⟨word, hword, hflag⟩ := List.mem_map.mp h
    obtain ⟨value, hvalue⟩ := Option.isSome_iff_exists.mp (complete word hword).readable
    rw [found?_of_mem distinct hword hflag, ← hflag, lookup_filterMap distinct hword, hvalue]
    rfl
  · rw [found?_of_notMem h, lookup_filterMap_of_notMem h]
    rfl

end GivenArgument

open GivenArgument (entries found?)

namespace GivenArguments

variable {command : CommandSpec} {values : List (String × ArgumentValue)}

/-- The flag of a complete word adds its value. -/
theorem takeFlag_of_isComplete (hflags : (command.arguments.map ArgumentSpec.flag).Nodup)
    {word : GivenArgument} (hword : word.argument ∈ command.arguments) (complete : word.IsComplete)
    {value : ArgumentValue} (hvalue : word.value? = some value)
    (hnew : word.flag ∉ values.map Prod.fst) :
    (GivenArguments.mk values none).takeFlag command word.argument.flag word.text? =
      .ok ⟨(word.flag, value) :: values, none⟩ := by
  obtain ⟨text, htext, hread⟩ := Option.bind_eq_some_iff.mp hvalue
  have hwanted : (word.text?.isSome && !word.argument.takesValue) = false := by
    cases hjoined : word.text?.isSome with
    | false => rfl
    | true => rw [complete.joined hjoined]; rfl
  have hidle : (word.text?.isNone && word.argument.takesValue && !word.argument.needsEquals) =
      false := by
    by_cases halone : word.text? = none ∧ word.argument.takesValue = true
    · rw [complete.alone halone.1 halone.2, Bool.not_true, Bool.and_false]
    · rw [Bool.and_eq_false_iff, ← Bool.not_eq_true, Bool.and_eq_true, Option.isNone_iff_eq_none]
      exact .inl halone
  have hlookup : values.lookup word.argument.flag = none := lookup_eq_none_of_notMem hnew
  rw [takeFlag, find?_of_nodup hflags hword]
  simp [take, hwanted, hidle, settle, accept, htext, hlookup, hread, bind, Except.bind,
    GivenArgument.flag]

/-- Complete words are taken one after the other, and nothing waits behind them. -/
theorem takeWords_words (hflags : (command.arguments.map ArgumentSpec.flag).Nodup)
    (hspelt : ∀ argument ∈ command.arguments, argument.flag ≠ "" ∧ '=' ∉ argument.flag.toList)
    {given : List GivenArgument} (hgiven : ∀ word ∈ given, word.argument ∈ command.arguments)
    (complete : ∀ word ∈ given, word.IsComplete)
    (distinct : (given.map GivenArgument.flag ++ values.map Prod.fst).Nodup) :
    takeWords command (given.map GivenArgument.word) ⟨values, none⟩ =
      .ok ⟨(entries given).reverse ++ values, none⟩ := by
  induction given generalizing values with
  | nil => rfl
  | cons word rest ih =>
    obtain ⟨hword, hrest⟩ := List.forall_mem_cons.mp hgiven
    obtain ⟨hcomplete, hothers⟩ := List.forall_mem_cons.mp complete
    obtain ⟨value, hvalue⟩ := Option.isSome_iff_exists.mp hcomplete.readable
    obtain ⟨hne, hequals⟩ := hspelt word.argument hword
    have hnew : word.flag ∉ values.map Prod.fst := fun hold =>
      (List.nodup_cons.mp distinct).1 (List.mem_append_right _ hold)
    -- The flag moves from the words still to come to the values taken.
    have hdistinct : (rest.map GivenArgument.flag ++
        ((word.flag, value) :: values).map Prod.fst).Nodup :=
      List.perm_middle.nodup_iff.mpr distinct
    rw [List.map_cons, takeWords, GivenArgument.word, CommandWord.of_flagWord hne hequals]
    simp only [takeFlag_of_isComplete hflags hword hcomplete hvalue hnew, bind, Except.bind]
    rw [ih hrest hothers hdistinct, GivenArgument.entries_cons hvalue]
    simp

/-- What is found of an argument is the value given for it, or its default. -/
theorem find?_found (hflags : (command.arguments.map ArgumentSpec.flag).Nodup)
    {argument : ArgumentSpec} (hargument : argument ∈ command.arguments) (given : GivenArguments) :
    (given.found command).find? argument.flag =
      ((given.values.lookup argument.flag).map (MatchedArgument.mk · .commandLine)).or
        argument.unspoken? := by
  rw [ArgumentMatches.find?, found, List.lookup_append, lookup_filterMap hflags hargument]
  exact congrArg (Option.or · _) (lookup_map (MatchedArgument.mk · .commandLine) argument.flag)

/-- No argument is missing where the flags needed were given. -/
theorem checkNeeded_eq_ok {given : GivenArguments}
    (h : ∀ argument ∈ command.arguments, argument.required = true →
      argument.flag ∈ given.values.map Prod.fst) : given.checkNeeded command = .ok () := by
  have hnone : command.arguments.any (fun argument =>
      argument.required && (given.values.lookup argument.flag).isNone) = false := by
    rw [List.any_eq_false]
    intro argument hargument hmissing
    obtain ⟨hrequired, hnone⟩ := (Bool.and_eq_true _ _).mp hmissing
    obtain ⟨entry, hentry, hflag⟩ := List.mem_map.mp (h argument hargument hrequired)
    have hsome : (given.values.lookup argument.flag).isSome = true :=
      List.lookup_isSome_iff.mpr ⟨entry, hentry, beq_iff_eq.mpr hflag.symm⟩
    rw [Option.isNone_iff_eq_none.mp hnone] at hsome
    cases hsome
  rw [checkNeeded, hnone]
  rfl

end GivenArguments

namespace ProgramSpec

variable {program : ProgramSpec}

namespace IsWellFormed

variable (wellFormed : program.IsWellFormed)
include wellFormed

/-- All arguments of the program itself can be given to every command. -/
theorem globals_eq : program.globals = program.command.arguments :=
  List.filter_eq_self.mpr fun argument hargument => (wellFormed.shared argument hargument).1

variable {command : CommandSpec} (hcommand : command ∈ program.subcommands)
include hcommand

/-- A command is found by its name. -/
theorem find?_name : program.find? command.name = some command :=
  find?_of_nodup (List.nodup_cons.mp wellFormed.commands).2 hcommand

/-- The flags behind a command are distinct. -/
theorem nodup_level : ((program.level command).arguments.map ArgumentSpec.flag).Nodup :=
  (List.nodup_cons.mp (List.nodup_cons.mp (wellFormed.flags command hcommand)).2).2

/-- A flag of a command is not one of every command. -/
theorem flag_notMem_globals {argument : ArgumentSpec} (hargument : argument ∈ command.arguments) :
    argument.flag ∉ program.globals.map ArgumentSpec.flag := by
  have h := wellFormed.nodup_level hcommand
  rw [level, List.map_append, List.nodup_append] at h
  exact fun hglobal => h.2.2 _ (List.mem_map_of_mem hargument) _ hglobal rfl

/-- The flags before a command are distinct. -/
theorem nodup_outer : (program.command.arguments.map ArgumentSpec.flag).Nodup := by
  have h := wellFormed.nodup_level hcommand
  rw [level, List.map_append, List.nodup_append, wellFormed.globals_eq] at h
  exact h.2.1

omit hcommand in
/-- A flag names no command. -/
theorem find?_flagWord (flag : String) (text? : Option String) :
    program.find? (flagWord flag text?) = none := by
  rw [find?, List.find?_eq_none]
  intro command hcommand hname
  have hhead := head?_flagWord flag text?
  rw [← beq_iff_eq.mp hname] at hhead
  exact wellFormed.names command hcommand hhead

end IsWellFormed

/-- A flag does not ask for the help of a command. -/
theorem flagWord_ne_help (flag : String) (text? : Option String) :
    (flagWord flag text? == "help") = false := by
  rw [beq_eq_false_iff_ne]
  intro h
  have hhead := head?_flagWord flag text?
  rw [h] at hhead
  exact absurd hhead (by decide)

section Words

variable (wellFormed : program.IsWellFormed) {command : CommandSpec}
  {before after : List GivenArgument}
include wellFormed

/-- Complete words before a command are taken one after the other. -/
theorem readFrom_words (taken : program.Takes command before after) {given : List GivenArgument}
    (hgiven : ∀ word ∈ given, word ∈ before) {values : List (String × ArgumentValue)}
    (distinct : (given.map GivenArgument.flag ++ values.map Prod.fst).Nodup) (rest : List String) :
    program.readFrom (given.map GivenArgument.word ++ rest) ⟨values, none⟩ =
      program.readFrom rest ⟨(entries given).reverse ++ values, none⟩ := by
  have hflags := wellFormed.nodup_outer taken.chosen
  induction given generalizing values with
  | nil => rfl
  | cons word others ih =>
    obtain ⟨hword, hothers⟩ := List.forall_mem_cons.mp hgiven
    have hcomplete := taken.complete word (List.mem_append_left _ hword)
    obtain ⟨value, hvalue⟩ := Option.isSome_iff_exists.mp hcomplete.readable
    have hargument := taken.outer word hword
    obtain ⟨hne, hequals⟩ := wellFormed.spelt command taken.chosen word.argument
      (List.mem_append_right _ hargument)
    rw [wellFormed.globals_eq] at hargument
    have hnew : word.flag ∉ values.map Prod.fst := fun hold =>
      (List.nodup_cons.mp distinct).1 (List.mem_append_right _ hold)
    have hdistinct : (others.map GivenArgument.flag ++
        ((word.flag, value) :: values).map Prod.fst).Nodup :=
      List.perm_middle.nodup_iff.mpr distinct
    have htake := GivenArguments.takeFlag_of_isComplete hflags hargument hcomplete hvalue hnew
    have hidle : (GivenArguments.mk values none).isWaiting = false := rfl
    rw [List.map_cons, List.cons_append, readFrom, GivenArgument.word, hidle,
      wellFormed.find?_flagWord, flagWord_ne_help, CommandWord.of_flagWord hne hequals]
    simp only [Bool.and_false, Bool.false_eq_true, if_false, htake, bind, Except.bind]
    rw [ih hothers hdistinct, GivenArgument.entries_cons hvalue]
    simp

/-- Behind the name of a command complete words are followed to their end. -/
theorem readCommand_words (taken : program.Takes command before after)
    (values : List (String × ArgumentValue)) :
    program.readCommand ⟨values, none⟩ command (after.map GivenArgument.word) =
      .ok (.join program.globals (GivenArguments.found program.command ⟨values, none⟩) command.name
        (GivenArguments.found (program.level command) ⟨(entries after).reverse, none⟩)) := by
  have hafter := (List.nodup_append.mp (List.map_append ▸ taken.distinct)).2.1
  have htake := @GivenArguments.takeWords_words (program.level command) []
    (wellFormed.nodup_level taken.chosen) (wellFormed.spelt command taken.chosen) after taken.inner
    (fun word hword => taken.complete word (List.mem_append_right _ hword))
    (by rwa [List.map_nil, List.append_nil])
  have hflags : (entries after).map Prod.fst = after.map GivenArgument.flag := by
    rw [entries, map_fst_filterMap, List.filter_eq_self.mpr]
    exact fun word hword => (taken.complete word (List.mem_append_right _ hword)).readable
  have hinner : (GivenArguments.mk (entries after).reverse none).checkNeeded
      (program.level command) = .ok () := by
    refine GivenArguments.checkNeeded_eq_ok fun argument hargument hrequired => ?_
    rw [List.map_reverse, List.mem_reverse, hflags]
    obtain hown | hglobal := List.mem_append.mp hargument
    · exact taken.needed argument hown hrequired
    · rw [wellFormed.globals_eq] at hglobal
      rw [(wellFormed.shared argument hglobal).2] at hrequired
      cases hrequired
  have houter : (GivenArguments.mk values none).checkNeeded program.command = .ok () := by
    refine GivenArguments.checkNeeded_eq_ok fun argument hargument hrequired => ?_
    rw [(wellFormed.shared argument hargument).2] at hrequired
    cases hrequired
  rw [List.append_nil] at htake
  simp [readCommand, GivenArguments.settle, GivenArguments.start, htake, hinner, houter, bind,
    Except.bind, pure, Except.pure]

end Words

end ProgramSpec

section Shared

variable {globals : List ArgumentSpec} {shared? : ArgumentSpec → Option MatchedArgument}

/-- What is found of an argument of every command is what both levels share of it. -/
theorem ArgumentMatches.find?_shared (distinct : (globals.map ArgumentSpec.flag).Nodup)
    {argument : ArgumentSpec} (hargument : argument ∈ globals) (found : ArgumentMatches) :
    (ArgumentMatches.mk (globals.filterMap (fun argument =>
      (shared? argument).map (argument.flag, ·)) ++ found.entries)).find? argument.flag =
        (shared? argument).or (found.find? argument.flag) := by
  rw [find?, List.lookup_append, lookup_filterMap distinct hargument, find?]

/-- Of any other flag nothing is shared. -/
theorem ArgumentMatches.find?_shared_of_notMem {flag : String}
    (hlocal : flag ∉ globals.map ArgumentSpec.flag) (found : ArgumentMatches) :
    (ArgumentMatches.mk (globals.filterMap (fun argument =>
      (shared? argument).map (argument.flag, ·)) ++ found.entries)).find? flag =
        found.find? flag := by
  rw [find?, List.lookup_append, lookup_filterMap_of_notMem hlocal, Option.none_or, find?]

end Shared

namespace ProgramMatches

variable {outer? inner? : Option MatchedArgument}

/-- Where there is no stronger value, there is none outside. -/
theorem stronger?_or_outer : (stronger? outer? inner?).or outer? = stronger? outer? inner? := by
  unfold stronger?
  split
  · rfl
  · cases inner? <;> cases outer? <;> rfl

/-- Where there is no stronger value, there is none inside. -/
theorem stronger?_or_inner : (stronger? outer? inner?).or inner? = stronger? outer? inner? := by
  unfold stronger?
  split
  · rfl
  · cases inner? <;> cases outer? <;> rfl

/-- What counts of an argument that is given once, before or behind the command, is what is found of
it among all words. -/
theorem stronger?_found? {before after : List GivenArgument}
    (distinct : ((before ++ after).map GivenArgument.flag).Nodup)
    (complete : ∀ word ∈ before ++ after, word.IsComplete) (argument : ArgumentSpec) :
    stronger? (found? before argument) (found? after argument) =
      found? (before ++ after) argument := by
  have hparts := List.nodup_append.mp (List.map_append ▸ distinct)
  obtain ⟨hbefore, hafter, hapart⟩ := hparts
  by_cases hfirst : argument.flag ∈ before.map GivenArgument.flag
  · have hlater : argument.flag ∉ after.map GivenArgument.flag := fun h =>
      hapart _ hfirst _ h rfl
    obtain ⟨word, hword, hflag⟩ := List.mem_map.mp hfirst
    have hall := List.mem_append_left after hword
    obtain ⟨value, hvalue⟩ := Option.isSome_iff_exists.mp (complete word hall).readable
    rw [GivenArgument.found?_of_mem hbefore hword hflag, GivenArgument.found?_of_notMem hlater,
      GivenArgument.found?_of_mem distinct hall hflag, hvalue, ArgumentSpec.unspoken?]
    cases argument.defaultValue? <;> rfl
  by_cases hlater : argument.flag ∈ after.map GivenArgument.flag
  · obtain ⟨word, hword, hflag⟩ := List.mem_map.mp hlater
    have hall := List.mem_append_right before hword
    obtain ⟨value, hvalue⟩ := Option.isSome_iff_exists.mp (complete word hall).readable
    rw [GivenArgument.found?_of_notMem hfirst, GivenArgument.found?_of_mem hafter hword hflag,
      GivenArgument.found?_of_mem distinct hall hflag, hvalue, ArgumentSpec.unspoken?]
    cases argument.defaultValue? <;> rfl
  · have hnever : argument.flag ∉ (before ++ after).map GivenArgument.flag := by
      rw [List.map_append, List.mem_append]
      exact not_or.mpr ⟨hfirst, hlater⟩
    rw [GivenArgument.found?_of_notMem hfirst, GivenArgument.found?_of_notMem hlater,
      GivenArgument.found?_of_notMem hnever, ArgumentSpec.unspoken?]
    cases argument.defaultValue? <;> rfl

end ProgramMatches

/-- The reader of this library follows the grammar of long flags. -/
theorem ProgramSpec.read_followsGrammar : ArgumentReader.FollowsGrammar ProgramSpec.read where
  follows {program} wellFormed {command before after} taken binary := by
    obtain ⟨hbefore, hafter, hapart⟩ := List.nodup_append.mp (List.map_append ▸ taken.distinct)
    have hcomplete := List.forall_mem_append.mp taken.complete
    have hlevel := wellFormed.nodup_level taken.chosen
    have hglobals : (program.globals.map ArgumentSpec.flag).Nodup := by
      rw [wellFormed.globals_eq]
      exact wellFormed.nodup_outer taken.chosen
    have hread : program.read (binary :: before.map GivenArgument.word ++ command.name ::
        after.map GivenArgument.word) = .ok (.join program.globals
          (GivenArguments.found program.command ⟨(entries before).reverse, none⟩) command.name
          (GivenArguments.found (program.level command) ⟨(entries after).reverse, none⟩)) := by
      rw [read, List.cons_append, List.tail_cons, GivenArguments.start,
        readFrom_words wellFormed taken (fun _ h => h) (by rwa [List.map_nil, List.append_nil]),
        List.append_nil, readFrom]
      have hidle : (GivenArguments.mk (entries before).reverse none).isWaiting = false := rfl
      rw [hidle, if_neg Bool.false_ne_true, wellFormed.find?_name taken.chosen]
      exact readCommand_words wellFormed taken _
    have houter {argument : ArgumentSpec} (hargument : argument ∈ program.globals) :
        (GivenArguments.found program.command ⟨(entries before).reverse, none⟩).find?
          argument.flag = found? before argument := by
      rw [GivenArgument.found?_eq hbefore hcomplete.1]
      exact GivenArguments.find?_found (wellFormed.nodup_outer taken.chosen)
        (wellFormed.globals_eq ▸ hargument) ⟨(entries before).reverse, none⟩
    have hinner {argument : ArgumentSpec}
        (hargument : argument ∈ (program.level command).arguments) :
        (GivenArguments.found (program.level command) ⟨(entries after).reverse, none⟩).find?
          argument.flag = found? after argument := by
      rw [GivenArgument.found?_eq hafter hcomplete.2]
      exact GivenArguments.find?_found hlevel hargument ⟨(entries after).reverse, none⟩
    refine ⟨_, _, hread, fun argument hargument => ?_, fun argument hargument => ?_⟩
    · have hlast := hinner (List.mem_append_right _ hargument)
      rw [ArgumentMatches.find?_shared hglobals hargument, houter hargument, hlast,
        ProgramMatches.stronger?_or_outer,
        ProgramMatches.stronger?_found? taken.distinct taken.complete]
    · obtain hown | hglobal := List.mem_append.mp hargument
      · -- An argument of the command is not given before it.
        have hlocal := wellFormed.flag_notMem_globals taken.chosen hown
        have hbehind : argument.flag ∉ before.map GivenArgument.flag := by
          intro h
          obtain ⟨word, hword, hflag⟩ := List.mem_map.mp h
          exact hlocal (List.mem_map.mpr ⟨word.argument, taken.outer word hword, hflag⟩)
        rw [ArgumentMatches.find?_shared_of_notMem hlocal, hinner hargument,
          GivenArgument.found?_append_of_notMem hbehind]
      · rw [ArgumentMatches.find?_shared hglobals hglobal, houter hglobal, hinner hargument,
          ProgramMatches.stronger?_or_inner,
          ProgramMatches.stronger?_found? taken.distinct taken.complete]

end Scaffold
