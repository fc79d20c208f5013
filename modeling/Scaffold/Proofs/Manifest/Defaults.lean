import Scaffold.Proofs.CommandLine.Naming
import Scaffold.Proofs.Lifecycle.Closure
import Scaffold.Proofs.Manifest.Rendering

/-!
# Defaults of a manifest

Nothing that is checked about a manifest concerns the defaults in it. They are checked like values
given, when a run takes options over that leave them to be filled in. A manifest that nothing is
wrong with can therefore declare a default that its own parameter refuses, and a run without a
value for this parameter fails over it; there is no other way to fail for options that fit.
-/

namespace Scaffold

/-- Options that a user got right: what they give fits, and no value is lacking that is required and
has no default. -/
structure Options.Fits (options : Options) (parameters : List Parameter) : Prop where
  /-- Each value fits the parameter that it is given for. -/
  given : ∀ parameter ∈ parameters, ∀ value, options.find? parameter.name = some value →
    parameter.accepts value = true
  /-- Required values are given where there is no default. -/
  full : ∀ parameter ∈ parameters, ¬options.Lacks parameter

namespace Parameter

/-- The default is filled into the options and does not fit. -/
structure Spoils (options : Options) (parameter : Parameter) (fault : ParameterFault) : Prop where
  /-- No value is given. -/
  absent : options.find? parameter.name = none
  /-- There is a default, which the parameter refuses. -/
  refused : ∃ value, parameter.default? = some value ∧ parameter.fault? value = some fault

variable {parameters : List Parameter} {options : Options} {parameter : Parameter}

/-- What a parameter has to say about options that fit is that its default does not. -/
theorem spoils_of_objects (fits : options.Fits parameters) (hparameter : parameter ∈ parameters)
    {complaint : String} (hobjects : parameter.Objects options complaint) :
    ∃ fault, parameter.Spoils options fault ∧ complaint = fault.message := by
  cases hobjects with
  | lacking needs has =>
    exact absurd (Options.lacks_iff.mpr ⟨needs, has⟩) (fits.full parameter hparameter)
  | @unfit value fault has wrong =>
    obtain hgiven | ⟨habsent, hdefault⟩ := Option.or_eq_some_iff.mp has
    · have haccepts := fits.given parameter hparameter value hgiven
      rw [accepts, wrong] at haccepts
      cases haccepts
    · exact ⟨fault, ⟨habsent, value, hdefault, wrong⟩, rfl⟩

end Parameter

namespace ManifestBlueprint

variable {ω : Type} {disk : Disk} {directory : Path} {session : Session ManifestBlueprint ω}
  {options : Options}

/-- A run of a manifest that nothing is wrong with takes over options that fit exactly if the
parameters accept the defaults that are filled in. Otherwise it complains of such a default, and
never of a value given or missing. -/
theorem acceptOptions_iff_defaults_fit
    (valid : session.run.blueprint.manifest.fault? disk directory = none)
    (checked : session.run.state = .preconditionChecked)
    (fits : options.Fits session.run.blueprint.manifest.parameters) :
    ((∃ left, Session.acceptOptions options session = .ok () left) ↔
        ∀ parameter ∈ session.run.blueprint.manifest.parameters,
          options.find? parameter.name = none → ∀ value, parameter.default? = some value →
            parameter.accepts value = true) ∧
      ∀ error left, Session.acceptOptions options session = .error error left →
        left = session ∧ ∃ parameter ∈ session.run.blueprint.manifest.parameters, ∃ fault,
          parameter.Spoils options fault ∧ error = .validation fault.message := by
  have distinct := (FlagNames.of_fault? valid).distinct
  have hrefused : ∀ error left, Session.acceptOptions options session = .error error left →
      left = session ∧ ∃ parameter ∈ session.run.blueprint.manifest.parameters, ∃ fault,
        parameter.Spoils options fault ∧ error = .validation fault.message := by
    intro error left hrefuse
    obtain ⟨complaint, hcomplaint, rfl, hleft⟩ :=
      (Session.acceptOptions_eq_error_iff checked).mp hrefuse
    obtain ⟨before, parameter, after, hsplit, -, hobjects⟩ :=
      Options.refusedBy_of_complete distinct hcomplaint
    have hparameter : parameter ∈ session.run.blueprint.manifest.parameters :=
      hsplit.symm ▸ List.mem_append_right before List.mem_cons_self
    obtain ⟨fault, hspoils, rfl⟩ := Parameter.spoils_of_objects fits hparameter hobjects
    exact ⟨hleft, parameter, hparameter, fault, hspoils, rfl⟩
  refine ⟨⟨?_, ?_⟩, hrefused⟩
  · rintro ⟨left, haccept⟩ parameter hparameter habsent value hdefault
    obtain ⟨completed, hcompleted, -⟩ := (Session.acceptOptions_eq_ok_iff checked).mp haccept
    have hcontent := (Options.exists_complete_iff distinct).mp ⟨completed, hcompleted⟩
    refine (hcontent parameter hparameter).fits value ?_
    rw [Parameter.value?, habsent, hdefault]
    rfl
  · intro hdefaults
    cases haccept : Session.acceptOptions options session with
    | ok _ left => exact ⟨left, rfl⟩
    | error error left =>
      obtain ⟨-, parameter, hparameter, fault, hspoils, -⟩ := hrefused error left haccept
      obtain ⟨value, hdefault, hfault⟩ := hspoils.refused
      have haccepts := hdefaults parameter hparameter hspoils.absent value hdefault
      rw [Parameter.accepts, hfault] at haccepts
      cases haccepts

/-- A manifest of a note in a style that is none of its choices by default. -/
def styledText : String :=
  "name: styled\ndescription: A note\nparameters:\n" ++
    "- {name: style, type: enum, choices: [plain], default: fancy}\n" ++
    "files:\n- {template: note}\n"

/-- The blueprint of the manifest, beside the template of the notes. -/
def styled : ManifestBlueprint where
  directory := pair.directory
  manifest := ⟨"styled", "A note", none,
    [⟨"style", .choice ["plain"], "", false, false, some (.text "fancy")⟩], [],
    [⟨"note", none⟩], []⟩
  replacements := Replacements.empty

/-- Nothing is wrong with the manifest. -/
theorem fault?_styled :
    styled.manifest.fault? pairWorkspace.disk styled.directory = none := by
  have htemplates : Manifest.templatesFault? pairWorkspace.disk styled.directory
      styled.manifest.files = none := templatesFault?_of_notes (by decide)
  rw [Manifest.fault?, htemplates]
  decide

/-- With the style given, the manifest is as good as any other. -/
theorem styled_accepts_plain :
    ∃ left, Session.acceptOptions ⟨[("style", .text "plain")]⟩
      (Session.checked styled pairWorkspace) = .ok () left := by
  have fits : Options.Fits ⟨[("style", .text "plain")]⟩ styled.manifest.parameters :=
    ⟨by decide, by decide⟩
  have checked : (Session.checked styled pairWorkspace).run.state = .preconditionChecked := rfl
  exact (acceptOptions_iff_defaults_fit fault?_styled checked fits).1.mpr (by decide)

/-- The manifest can be read and nothing is wrong with it, no value is given that does not fit and
none is required, but the run complains of the default. -/
theorem styled_refuses_own_default :
    Manifest.ofYaml? styledText = some styled.manifest ∧
      styled.manifest.fault? pairWorkspace.disk styled.directory = none ∧
      Options.empty.Fits styled.manifest.parameters ∧
      Session.acceptOptions Options.empty (Session.checked styled pairWorkspace) =
        .error (.validation "--style must be one of: plain (got 'fancy')")
          (Session.checked styled pairWorkspace) :=
  ⟨by decide +kernel, fault?_styled, ⟨by decide, by decide⟩, rfl⟩

end ManifestBlueprint

end Scaffold
