import Scaffold.Manifest.Blueprint
import Scaffold.Proofs.CommandLine.Words
import Scaffold.Proofs.Lookup

/-!
# Names on a command line

What the names of blueprints and parameters must be like for a command line to tell them apart. A
manifest without fault names its blueprint and its parameters so, and a registry keeps the names
of its blueprints distinct.
-/

namespace Scaffold

/-- Parameters whose names can be the flags of one command. -/
structure FlagNames (parameters : List Parameter) : Prop where
  /-- The names can be flags. -/
  valid : ∀ parameter ∈ parameters, Name.isValid parameter.name = true
  /-- No flag of every command is among them. -/
  free : ∀ parameter ∈ parameters, parameter.name ∉ Name.reservedFlags
  /-- No name occurs twice. -/
  distinct : (parameters.map Parameter.name).Nodup

/-- A blueprint that can be a command, with its parameters as flags. -/
structure CommandNames {β : Type} [Declared β] (blueprint : β) : Prop where
  /-- The name can be a command. -/
  valid : Name.isValid (Declared.name blueprint) = true
  /-- The name is not that of another command. -/
  free : Declared.name blueprint ∉ Name.reservedCommands
  /-- The names of the parameters can be its flags. -/
  flags : FlagNames (Declared.parameters blueprint)

/-- A registry whose blueprints can be the commands of one program. -/
structure Registry.WellNamed {β : Type} [Declared β] (registry : Registry β) : Prop where
  /-- Each blueprint can be a command. -/
  names : ∀ entry ∈ registry.entries, CommandNames entry.blueprint
  /-- No name occurs twice. -/
  distinct : (registry.entries.map RegistryEntry.name).Nodup

/-- Where nothing is wrong, the first check passes, and nothing is wrong behind it. -/
theorem passes_of_ite {α : Type} {wrong : Prop} [Decidable wrong] {fault : α} {rest : Option α}
    (hnone : (if wrong then some fault else rest) = none) : ¬wrong ∧ rest = none := by
  split at hnone
  case isTrue => cases hnone
  case isFalse hright => exact ⟨hright, hnone⟩

namespace FlagNames

variable {parameters : List Parameter}

/-- A parameter without fault has a name that can be a flag and was not seen before. -/
theorem of_parameterFault? {seen : List String} {parameter : Parameter}
    (hnone : Manifest.parameterFault? seen parameter = none) :
    Name.isValid parameter.name = true ∧ parameter.name ∉ Name.reservedFlags ∧
      parameter.name ∉ seen := by
  unfold Manifest.parameterFault? at hnone
  obtain ⟨hvalid, hnone⟩ := passes_of_ite hnone
  obtain ⟨hfree, hnone⟩ := passes_of_ite hnone
  obtain ⟨hnew, -⟩ := passes_of_ite hnone
  exact ⟨by simpa using hvalid, by simpa using hfree, by simpa using hnew⟩

/-- Parameters without fault have names that can be flags, and were not seen before. -/
theorem of_parametersFault? {seen : List String}
    (hnone : Manifest.parametersFault? seen parameters = none) :
    FlagNames parameters ∧ ∀ parameter ∈ parameters, parameter.name ∉ seen := by
  induction parameters generalizing seen with
  | nil => exact ⟨⟨nofun, nofun, .nil⟩, nofun⟩
  | cons parameter rest ih =>
    rw [Manifest.parametersFault?] at hnone
    split at hnone
    case h_1 => cases hnone
    case h_2 hparameter =>
      obtain ⟨hvalid, hfree, hnew⟩ := of_parameterFault? hparameter
      obtain ⟨hrest, hunseen⟩ := ih hnone
      have hdistinct : parameter.name ∉ rest.map Parameter.name := by
        intro hname
        obtain ⟨other, hother, heq⟩ := List.mem_map.mp hname
        exact hunseen other hother (heq ▸ List.mem_cons_self)
      refine ⟨⟨List.forall_mem_cons.mpr ⟨hvalid, hrest.valid⟩,
        List.forall_mem_cons.mpr ⟨hfree, hrest.free⟩,
        List.nodup_cons.mpr ⟨hdistinct, hrest.distinct⟩⟩, ?_⟩
      refine List.forall_mem_cons.mpr ⟨hnew, fun other hother hold => ?_⟩
      exact hunseen other hother (List.mem_cons_of_mem _ hold)

/-- A manifest without fault declares parameters whose names can be flags. -/
theorem of_fault? {disk : Disk} {directory : Path} {manifest : Manifest}
    (hnone : manifest.fault? disk directory = none) : FlagNames manifest.parameters := by
  simp only [Manifest.fault?, Option.or_eq_none_iff] at hnone
  exact (of_parametersFault? hnone.2.2.1).1

end FlagNames

/-- A blueprint loaded from a manifest can be a command. -/
theorem ManifestBlueprint.commandNames_of_load {disk : Disk} {directory : Path}
    {blueprint : ManifestBlueprint} (hload : load disk directory = .ok blueprint) :
    CommandNames blueprint := by
  unfold load at hload
  dsimp only at hload
  split at hload
  case h_1 => cases hload
  split at hload
  case h_1 => cases hload
  case h_2 manifest _ =>
    split at hload
    case h_1 => cases hload
    case h_2 hnone =>
      cases hload
      have hflags := FlagNames.of_fault? hnone
      simp only [Manifest.fault?, Option.or_eq_none_iff] at hnone
      have hname := hnone.1
      unfold Manifest.nameFault? at hname
      obtain ⟨-, hname⟩ := passes_of_ite hname
      obtain ⟨-, hname⟩ := passes_of_ite hname
      obtain ⟨hvalid, hname⟩ := passes_of_ite hname
      obtain ⟨hfree, -⟩ := passes_of_ite hname
      have hcommand : Name.isValid manifest.name = true := by simpa using hvalid
      have hother : manifest.name ∉ Name.reservedCommands := by simpa using hfree
      exact ⟨hcommand, hother, hflags⟩

namespace Registry

variable {β ω : Type}

namespace WellNamed

variable [Declared β] {registry : Registry β} (names : registry.WellNamed)
include names

/-- A blueprint is found by its name. -/
theorem find?_name {entry : RegistryEntry β} (hentry : entry ∈ registry.entries) :
    registry.find? entry.name = some entry :=
  find?_of_nodup names.distinct hentry

end WellNamed

/-- One blueprint more keeps the names of a registry in order. A blueprint whose name is taken is
dropped. -/
theorem WellNamed.add [Blueprint β ω] {world : ω} {registry : Registry β}
    (names : registry.WellNamed) {blueprint : β}
    (hnames : CommandNames (Blueprint.availability world blueprint).2)
    (hkept : Declared.name (Blueprint.availability world blueprint).2 = Declared.name blueprint)
    (origin : Origin) : (registry.add world origin blueprint).WellNamed := by
  by_cases htaken : (registry.find? (Declared.name blueprint)).isSome = true
  · rw [Registry.add, if_pos htaken]
    exact ⟨names.names, names.distinct⟩
  · rw [Registry.add, if_neg htaken]
    have hnew : Declared.name blueprint ∉ registry.entries.map RegistryEntry.name := by
      intro hname
      obtain ⟨entry, hentry, heq⟩ := List.mem_map.mp hname
      rw [← heq] at htaken
      rw [names.find?_name hentry] at htaken
      exact htaken rfl
    constructor
    · intro entry hentry
      rcases List.mem_append.mp hentry with hold | hlast
      · exact names.names entry hold
      · rw [List.mem_singleton.mp hlast]
        exact hnames
    · rw [List.map_append, List.map_singleton]
      refine List.nodup_append.mpr ⟨names.distinct, List.pairwise_singleton _ _, ?_⟩
      intro name hname other hother heq
      rw [heq, List.mem_singleton.mp hother] at hname
      rw [RegistryEntry.name, hkept] at hname
      exact hnew hname

/-- Several blueprints more keep the names of a registry in order. -/
theorem WellNamed.foldl_add [Blueprint β ω] {world : ω} {origin : Origin} {registry : Registry β}
    (names : registry.WellNamed) {blueprints : List β}
    (hnames : ∀ blueprint ∈ blueprints, CommandNames (Blueprint.availability world blueprint).2)
    (hkept : ∀ blueprint ∈ blueprints,
      Declared.name (Blueprint.availability world blueprint).2 = Declared.name blueprint) :
    (blueprints.foldl (Registry.add world origin) registry).WellNamed := by
  induction blueprints generalizing registry with
  | nil => exact names
  | cons blueprint rest ih =>
    obtain ⟨hname, hnames⟩ := List.forall_mem_cons.mp hnames
    obtain ⟨hkeeps, hkept⟩ := List.forall_mem_cons.mp hkept
    exact ih (names.add hname hkeeps origin) hnames hkept

/-- The blueprints of a registry can be the commands of one program, if each can be a command and
keeps its name when it is asked whether it can be used. -/
theorem ofBlueprints_wellNamed [Blueprint β ω] {world : ω} {builtIn project : List β}
    (hnames : ∀ blueprint ∈ builtIn ++ project,
      CommandNames (Blueprint.availability world blueprint).2)
    (hkept : ∀ blueprint ∈ builtIn ++ project,
      Declared.name (Blueprint.availability world blueprint).2 = Declared.name blueprint) :
    (ofBlueprints world builtIn project).WellNamed := by
  have hempty : (Registry.empty : Registry β).WellNamed := ⟨nofun, .nil⟩
  obtain ⟨hbuiltIn, hproject⟩ := List.forall_mem_append.mp hnames
  obtain ⟨hkeptBuiltIn, hkeptProject⟩ := List.forall_mem_append.mp hkept
  exact (hempty.foldl_add hbuiltIn hkeptBuiltIn).foldl_add hproject hkeptProject

end Registry

end Scaffold
