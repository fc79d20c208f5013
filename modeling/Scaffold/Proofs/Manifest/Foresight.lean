import Mathlib.Data.List.Induction
import Scaffold.Proofs.Manifest.Rendering

/-!
# What preparing a manifest foresees

A blueprint from a manifest looks for the paths of its files twice: when it prepares itself, from
the tokens that it has just been told, and when it makes its files, from the tokens that it then
remembers. Both times the paths are the same. So once it is prepared, and as long as the host stays
as it is, only a template that cannot be read keeps it from making its files. What it remembers
comes from the last options that left no required text blank, also where preparing failed after
that.
-/

namespace Scaffold

/-- The options give a required text a blank value. -/
structure Options.LeavesBlank (options : Options) (parameter : Parameter) : Prop where
  /-- The parameter needs a value. -/
  needed : parameter.require = true
  /-- It is a text. -/
  text : parameter.kind = .text
  /-- Its value is blank. -/
  blank : ∃ value, options.find? parameter.name = some value ∧
    Text.isAllBlank value.render = true

namespace ManifestBlueprint

section Tokens

variable {parameters : List Parameter} {options : Options} {parameter : Parameter}

/-- Whether the options give some required text a blank value. -/
def hasBlank (parameters : List Parameter) (options : Options) : Bool :=
  parameters.any fun parameter =>
    (options.find? parameter.name).any fun value => isTooBlank parameter value.render

/-- The check finds an option that leaves a required text blank. -/
theorem leavesBlank_iff :
    ((options.find? parameter.name).any fun value => isTooBlank parameter value.render) = true ↔
      options.LeavesBlank parameter := by
  simp only [Option.any_eq_true, isTooBlank, Bool.and_eq_true, beq_iff_eq]
  constructor
  · rintro ⟨value, hvalue, ⟨hneeded, htext⟩, hblank⟩
    exact ⟨hneeded, htext, value, hvalue, hblank⟩
  · rintro ⟨hneeded, htext, value, hvalue, hblank⟩
    exact ⟨value, hvalue, ⟨hneeded, htext⟩, hblank⟩

/-- The check finds whether any option leaves a required text blank. -/
theorem hasBlank_iff :
    hasBlank parameters options = true ↔
      ∃ parameter ∈ parameters, options.LeavesBlank parameter := by
  simp only [hasBlank, List.any_eq_true, leavesBlank_iff]

/-- The token of a parameter that has a value. -/
def tokenFor? (options : Options) (parameter : Parameter) : Option (String × String) :=
  (options.find? parameter.name).map fun value => (token parameter, value.render)

/-- The tokens of all parameters that have values. -/
def tokens (parameters : List Parameter) (options : Options) : Replacements :=
  Replacements.ofList (parameters.filterMap (tokenFor? options))

/-- Tokens are collected up to the first required text that is blank. -/
theorem replacementsFor_cases (options : Options) (replacements : Replacements)
    (parameters : List Parameter) :
    (∃ parameter ∈ parameters, options.LeavesBlank parameter ∧
        replacementsFor options replacements parameters =
          .error (.validation ("--" ++ parameter.name ++ " must not be empty"))) ∨
      hasBlank parameters options = false ∧
        replacementsFor options replacements parameters =
          .ok ((parameters.filterMap (tokenFor? options)).foldl
            (fun replacements pair => replacements.insert pair.1 pair.2) replacements) := by
  induction parameters generalizing replacements with
  | nil => exact .inr ⟨rfl, rfl⟩
  | cons parameter rest ih =>
    rw [replacementsFor, hasBlank, List.any_cons]
    cases hvalue : options.find? parameter.name with
    | none =>
      have htoken : tokenFor? options parameter = none := by
        rw [tokenFor?, hvalue]
        rfl
      rw [List.filterMap_cons_none htoken]
      refine (ih replacements).imp ?_ id
      rintro ⟨other, hother, hblank, herror⟩
      exact ⟨other, List.mem_cons_of_mem parameter hother, hblank, herror⟩
    | some value =>
      have htoken : tokenFor? options parameter = some (token parameter, value.render) := by
        rw [tokenFor?, hvalue]
        rfl
      rw [List.filterMap_cons_some htoken]
      dsimp only [Option.any_some]
      by_cases hblank : isTooBlank parameter value.render = true
      · rw [if_pos hblank]
        refine .inl ⟨parameter, List.mem_cons_self, leavesBlank_iff.mp ?_, rfl⟩
        rw [hvalue]
        exact hblank
      · rw [if_neg hblank, Bool.eq_false_iff.mpr hblank, Bool.false_or]
        refine (ih _).imp ?_ id
        rintro ⟨other, hother, hblank, herror⟩
        exact ⟨other, List.mem_cons_of_mem parameter hother, hblank, herror⟩

end Tokens

/-- The blueprint once it remembers the tokens of options. -/
def told (blueprint : ManifestBlueprint) (options : Options) : ManifestBlueprint :=
  { blueprint with replacements := tokens blueprint.manifest.parameters options }

/-- The path of the file of an entry, rendered with the tokens of options. -/
def pathFor (blueprint : ManifestBlueprint) (options : Options) (entry : ManifestFile) : Path :=
  ⟨(tokens blueprint.manifest.parameters options).render entry.destination⟩

variable {ω : Type} [FileHost ω] {blueprint : ManifestBlueprint} {options : Options} {host : ω}

/-- Everything that can happen when a blueprint from a manifest prepares itself. -/
inductive Prepares (blueprint : ManifestBlueprint) (options : Options) (host : ω) :
    EStateM.Result BlueprintError (ManifestBlueprint × ω) Unit → Prop
  /-- A required text is blank, and nothing is remembered. -/
  | blank {parameter : Parameter} (declared : parameter ∈ blueprint.manifest.parameters)
      (blank : options.LeavesBlank parameter) :
      Prepares blueprint options host
        (.error (.validation ("--" ++ parameter.name ++ " must not be empty")) (blueprint, host))
  /-- The tokens are remembered, but there is something at the path of a file. -/
  | occupied {entry : ManifestFile}
      (filled : hasBlank blueprint.manifest.parameters options = false)
      (listed : entry ∈ blueprint.manifest.files)
      (there : FileHost.has (blueprint.pathFor options entry) host = true) :
      Prepares blueprint options host
        (.error (.validation ((blueprint.pathFor options entry).text ++ " already exists"))
          (blueprint.told options, host))
  /-- The tokens are remembered, and nothing is in the way. -/
  | ready (filled : hasBlank blueprint.manifest.parameters options = false)
      (absent : ∀ entry ∈ blueprint.manifest.files,
        FileHost.has (blueprint.pathFor options entry) host = false) :
      Prepares blueprint options host (.ok () (blueprint.told options, host))

variable [HasDisk ω]

/-- What happens when a blueprint from a manifest prepares itself is listed. -/
theorem prepares (blueprint : ManifestBlueprint) (options : Options) (host : ω) :
    Prepares blueprint options host (Blueprint.prepare options (blueprint, host)) := by
  obtain ⟨parameter, hparameter, hblank, herror⟩ | ⟨hfilled, hreplacements⟩ :=
    replacementsFor_cases options Replacements.empty blueprint.manifest.parameters
  · simp only [Blueprint.prepare, herror]
    exact .blank hparameter hblank
  · simp only [Blueprint.prepare, hreplacements]
    split
    case h_1 path hfind =>
      have hthere := List.find?_some (p := fun path => FileHost.has path host) hfind
      obtain ⟨entry, hentry, rfl⟩ := List.mem_map.mp (List.mem_of_find?_eq_some hfind)
      exact .occupied hfilled hentry hthere
    case h_2 hnone =>
      refine .ready hfilled fun entry hentry => Bool.eq_false_iff.mpr ?_
      exact List.find?_eq_none.mp hnone _ (List.mem_map_of_mem hentry)

/-- Preparing remembers the tokens of the options unless they leave a required text blank, and
leaves the host. -/
theorem after_prepare (blueprint : ManifestBlueprint) (options : Options) (host : ω) :
    (Blueprint.prepare options).after (blueprint, host) =
      (if hasBlank blueprint.manifest.parameters options then blueprint
        else blueprint.told options, host) := by
  have hprepares := prepares blueprint options host
  unfold Task.after
  generalize Blueprint.prepare options (blueprint, host) = result at hprepares ⊢
  cases hprepares with
  | blank declared blank => rw [if_pos (hasBlank_iff.mpr ⟨_, declared, blank⟩)]
  | occupied filled => rw [if_neg (Bool.eq_false_iff.mp filled)]
  | ready filled => rw [if_neg (Bool.eq_false_iff.mp filled)]

section Sequences

/-- The blueprint after it was told several times to prepare itself, each time for other options
and in another world. -/
def prepareAll (blueprint : ManifestBlueprint) (calls : List (Options × ω)) : ManifestBlueprint :=
  calls.foldl (fun blueprint call => ((Blueprint.prepare call.1).after (blueprint, call.2)).1)
    blueprint

omit [FileHost ω] [HasDisk ω] in
/-- The last options among those of calls that leave no required text blank. -/
def lastFilled? (parameters : List Parameter) (calls : List (Options × ω)) : Option Options :=
  ((calls.map Prod.fst).filter (!hasBlank parameters ·)).getLast?

omit [FileHost ω] [HasDisk ω] in
/-- One call more is the last one that counts, unless it leaves a text blank. -/
theorem lastFilled?_append (parameters : List Parameter) (calls : List (Options × ω))
    (call : Options × ω) :
    lastFilled? parameters (calls ++ [call]) =
      if hasBlank parameters call.1 then lastFilled? parameters calls else some call.1 := by
  rw [lastFilled?, List.map_append, List.filter_append, List.map_singleton]
  cases hblank : hasBlank parameters call.1 with
  | true =>
    rw [List.filter_cons_of_neg (by rw [hblank]; nofun), List.filter_nil, List.append_nil]
    rfl
  | false =>
    rw [List.filter_cons_of_pos (by rw [hblank]; rfl), List.getLast?_append]
    rfl

/-- A blueprint remembers the tokens of the last options that leave no required text blank. -/
theorem prepareAll_eq (blueprint : ManifestBlueprint) (calls : List (Options × ω)) :
    blueprint.prepareAll calls =
      (lastFilled? blueprint.manifest.parameters calls).elim blueprint blueprint.told := by
  induction calls using List.reverseRecOn with
  | nil => rfl
  | append_singleton calls call ih =>
    have hstep : blueprint.prepareAll (calls ++ [call]) =
        ((Blueprint.prepare call.1).after (blueprint.prepareAll calls, call.2)).1 := by
      rw [prepareAll, List.foldl_append]
      rfl
    -- What was remembered before changes neither the parameters nor what is remembered next.
    have hparameters : (blueprint.prepareAll calls).manifest.parameters =
        blueprint.manifest.parameters := by
      rw [ih]
      cases lastFilled? blueprint.manifest.parameters calls <;> rfl
    have htold : (blueprint.prepareAll calls).told call.1 = blueprint.told call.1 := by
      rw [ih]
      cases lastFilled? blueprint.manifest.parameters calls <;> rfl
    rw [hstep, after_prepare, hparameters, htold, lastFilled?_append]
    split
    case isTrue => exact ih
    case isFalse => rfl

end Sequences

/-- Where nothing is at the path of its file, an entry makes a file unless its template cannot be
read. -/
theorem change_cases (directory : Path) {replacements : Replacements} {entry : ManifestFile}
    (absent : FileHost.has ⟨replacements.render entry.destination⟩ host = false) :
    (∃ fault, (HasDisk.disk host).readText (directory.join ⟨entry.template⟩) = .error fault ∧
        TemplateUse.change host directory replacements ⟨entry.template, entry.destination⟩ =
          .error (.other ("Failed to load template " ++
            (directory.join ⟨entry.template⟩).text))) ∨
      ∃ file, Makes (HasDisk.disk host) directory replacements entry file ∧
        TemplateUse.change host directory replacements ⟨entry.template, entry.destination⟩ =
          .ok (Change.insert file.1 0 file.2) := by
  unfold TemplateUse.change
  dsimp only
  cases htemplate : (HasDisk.disk host).readText (directory.join ⟨entry.template⟩) with
  | error fault => exact .inl ⟨fault, rfl, rfl⟩
  | ok template =>
    refine .inr ⟨(⟨replacements.render entry.destination⟩, replacements.render template),
      ⟨template, htemplate, rfl⟩, ?_⟩
    exact createFile_eq_ok_iff.mpr ⟨absent, rfl⟩

/-- So do all entries together, up to the first template that cannot be read. -/
theorem mapM_change_cases (directory : Path) {replacements : Replacements}
    {entries : List ManifestFile}
    (absent : ∀ entry ∈ entries,
      FileHost.has ⟨replacements.render entry.destination⟩ host = false) :
    (∃ entry ∈ entries, ∃ fault,
        (HasDisk.disk host).readText (directory.join ⟨entry.template⟩) = .error fault ∧
        (entries.mapM fun entry => TemplateUse.change host directory replacements
            ⟨entry.template, entry.destination⟩) =
          .error (.other ("Failed to load template " ++
            (directory.join ⟨entry.template⟩).text))) ∨
      ∃ files, List.Forall₂ (Makes (HasDisk.disk host) directory replacements) entries files ∧
        (entries.mapM fun entry => TemplateUse.change host directory replacements
            ⟨entry.template, entry.destination⟩) = .ok (Change.creations files) := by
  induction entries with
  | nil => exact .inr ⟨[], .nil, rfl⟩
  | cons entry rest ih =>
    obtain ⟨hfirst, hrest⟩ := List.forall_mem_cons.mp absent
    rw [List.mapM_cons]
    obtain ⟨fault, hfault, herror⟩ | ⟨file, hfile, hchange⟩ := change_cases directory hfirst
    · refine .inl ⟨entry, List.mem_cons_self, fault, hfault, ?_⟩
      rw [herror]
      rfl
    · rw [hchange]
      obtain ⟨other, hother, fault, hfault, herror⟩ | ⟨files, hfiles, hchanges⟩ := ih hrest
      · refine .inl ⟨other, List.mem_cons_of_mem entry hother, fault, hfault, ?_⟩
        rw [herror]
        rfl
      · refine .inr ⟨file :: files, .cons hfile hfiles, ?_⟩
        rw [hchanges]
        rfl

/-- Where nothing is at the paths of its files, a blueprint from a manifest makes all of them
unless a template cannot be read. -/
theorem generate_cases
    (absent : ∀ path ∈ blueprint.destinations, FileHost.has path host = false) :
    (∃ entry ∈ blueprint.manifest.files, ∃ fault,
        (HasDisk.disk host).readText (blueprint.directory.join ⟨entry.template⟩) = .error fault ∧
        Blueprint.generate (blueprint, host) =
          .error (.other ("Failed to load template " ++
            (blueprint.directory.join ⟨entry.template⟩).text)) (blueprint, host)) ∨
      ∃ files, List.Forall₂ (Makes (HasDisk.disk host) blueprint.directory blueprint.replacements)
          blueprint.manifest.files files ∧
        Blueprint.generate (blueprint, host) =
          .ok (Change.creations files) (blueprint, host) := by
  have hchanges : TemplateUse.changes host blueprint.directory blueprint.replacements
      blueprint.usages = blueprint.manifest.files.mapM fun entry =>
        TemplateUse.change host blueprint.directory blueprint.replacements
          ⟨entry.template, entry.destination⟩ := by
    rw [TemplateUse.changes, usages, List.mapM_map]
    rfl
  have habsent : ∀ entry ∈ blueprint.manifest.files,
      FileHost.has ⟨blueprint.replacements.render entry.destination⟩ host = false :=
    fun entry hentry => absent _ (List.mem_map_of_mem hentry)
  simp only [Blueprint.generate, hchanges]
  obtain ⟨entry, hentry, fault, hfault, herror⟩ | ⟨files, hfiles, hmade⟩ :=
    mapM_change_cases blueprint.directory habsent
  · refine .inl ⟨entry, hentry, fault, hfault, ?_⟩
    rw [herror]
  · refine .inr ⟨files, hfiles, ?_⟩
    rw [hmade]

/-- Preparing fails exactly if a required text is blank or there is something at the path of a file.
If it succeeds, then on the same host only a template that cannot be read keeps the blueprint from
creating each file with its rendered text, in the order of the manifest, and nothing is written.
After any calls, also some that failed, the changes depend only on the last options that left no
required text blank; options that leave one blank change nothing. -/
theorem prepare_foresees_generate (blueprint : ManifestBlueprint) (options : Options) (host : ω) :
    ((∃ error left, Blueprint.prepare options (blueprint, host) = .error error left) ↔
        (∃ parameter ∈ blueprint.manifest.parameters, options.LeavesBlank parameter) ∨
          ∃ entry ∈ blueprint.manifest.files,
            FileHost.has (blueprint.pathFor options entry) host = true) ∧
      (∀ left, Blueprint.prepare options (blueprint, host) = .ok () left →
        left = (blueprint.told options, host) ∧
        ((∃ entry ∈ blueprint.manifest.files, ∃ fault,
            (HasDisk.disk host).readText (blueprint.directory.join ⟨entry.template⟩) =
              .error fault ∧
            Blueprint.generate left = .error (.other ("Failed to load template " ++
              (blueprint.directory.join ⟨entry.template⟩).text)) left) ∨
          ∃ files, List.Forall₂ (Makes (HasDisk.disk host) blueprint.directory
              (tokens blueprint.manifest.parameters options)) blueprint.manifest.files files ∧
            Blueprint.generate left = .ok (Change.creations files) left)) ∧
      ((∃ parameter ∈ blueprint.manifest.parameters, options.LeavesBlank parameter) →
        (Blueprint.prepare options).after (blueprint, host) = (blueprint, host)) ∧
      ∀ calls : List (Options × ω),
        (lastFilled? blueprint.manifest.parameters calls = none →
          blueprint.prepareAll calls = blueprint) ∧
        ∀ last, lastFilled? blueprint.manifest.parameters calls = some last → ∀ world : ω,
          Blueprint.generate (blueprint.prepareAll calls, world) =
            (Blueprint.generate (⟨blueprint.directory, blueprint.manifest,
                tokens blueprint.manifest.parameters last⟩, world) :
              EStateM.Result BlueprintError (ManifestBlueprint × ω) (List Change)) := by
  have hprepares := prepares blueprint options host
  refine ⟨?_, ?_, fun hblank => ?_, fun calls => ⟨fun hnone => ?_, fun last hlast world => ?_⟩⟩
  · generalize Blueprint.prepare options (blueprint, host) = result at hprepares
    cases hprepares with
    | blank declared blank => exact ⟨fun _ => .inl ⟨_, declared, blank⟩, fun _ => ⟨_, _, rfl⟩⟩
    | occupied _ listed there => exact ⟨fun _ => .inr ⟨_, listed, there⟩, fun _ => ⟨_, _, rfl⟩⟩
    | ready filled absent =>
      refine ⟨fun ⟨_, _, herror⟩ => (nomatch herror), ?_⟩
      rintro (hblank | ⟨entry, hentry, hthere⟩)
      · rw [hasBlank_iff.mpr hblank] at filled
        cases filled
      · rw [absent entry hentry] at hthere
        cases hthere
  · intro left hleft
    rw [hleft] at hprepares
    cases hprepares with
    | ready filled absent =>
      have hpaths : ∀ path ∈ (blueprint.told options).destinations,
          FileHost.has path host = false := by
        intro path hpath
        obtain ⟨entry, hentry, rfl⟩ := List.mem_map.mp hpath
        exact absent entry hentry
      exact ⟨rfl, generate_cases hpaths⟩
  · rw [after_prepare, if_pos (hasBlank_iff.mpr hblank)]
  · rw [prepareAll_eq, hnone]
    rfl
  · rw [prepareAll_eq, hlast]
    rfl

/-- An entry stands for one file only. -/
theorem rightUnique_makes (disk : Disk) (directory : Path) (replacements : Replacements) :
    Relator.RightUnique (Makes disk directory replacements) := by
  rintro entry _ _ ⟨template, htemplate, rfl⟩ ⟨other, hother, rfl⟩
  cases htemplate.symm.trans hother
  rfl

/-- The pair told its paths twice remembers the last ones, and creates the notes there. -/
theorem prepare_foresees_pair :
    let files : List (Path × String) := [(⟨"x"⟩, "For x\n"), (⟨"y"⟩, "For x\n")]
    List.Forall₂ (Makes pairWorkspace.disk pair.directory (pairTokens "x" "y"))
        pair.manifest.files files ∧
      Blueprint.generate (pair.prepareAll [(pairOptions "a" "b", pairWorkspace),
          (pairOptions "x" "y", pairWorkspace)], pairWorkspace) =
        (.ok (Change.creations files) (pair.told (pairOptions "x" "y"), pairWorkspace) :
          EStateM.Result BlueprintError (ManifestBlueprint × Workspace) (List Change)) := by
  intro files
  obtain ⟨-, hforesees, -, hcalls⟩ :=
    prepare_foresees_generate pair (pairOptions "x" "y") pairWorkspace
  have htokens : tokens pair.manifest.parameters (pairOptions "x" "y") = pairTokens "x" "y" := rfl
  have hlast : lastFilled? pair.manifest.parameters
      [(pairOptions "a" "b", pairWorkspace), (pairOptions "x" "y", pairWorkspace)] =
        some (pairOptions "x" "y") := rfl
  have hprepared : Blueprint.prepare (pairOptions "x" "y") (pair, pairWorkspace) =
      .ok () (pair.told (pairOptions "x" "y"), pairWorkspace) := rfl
  have hnamed : pairFiles "x" "y" = files := by decide +kernel
  have hmakes := makes_pairFiles "x" "y"
  rw [hnamed] at hmakes
  refine ⟨hmakes, ?_⟩
  rw [(hcalls _).2 _ hlast pairWorkspace]
  obtain ⟨-, ⟨entry, hentry, fault, hfault, -⟩ | ⟨made, hmade, hgenerates⟩⟩ :=
    hforesees _ hprepared
  · obtain ⟨-, -, template, htemplate, -⟩ := exists_of_forall₂ hmakes hentry
    cases htemplate.symm.trans hfault
  · rw [htokens] at hmade
    rw [(rightUnique_makes _ _ _).forall₂ hmade hmakes] at hgenerates
    exact hgenerates

end ManifestBlueprint

end Scaffold
