import Scaffold.Blueprint.Fixed
import Scaffold.Proofs.Lifecycle.Completion
import Scaffold.Proofs.Lifecycle.Steps

/-!
# Accepting options is a closure

A run that takes options over adds the defaults that are missing and nothing else, and takes its
own result over again unchanged. It refuses options at the first parameter that is not content with
its value, and is then as it was.
-/

namespace Scaffold

namespace Session

variable {β ω : Type} [Declared β] {session left : Session β ω} {options : Options}

/-- What a run does with options is what completing them gives. -/
theorem acceptOptions_eq_ok_iff (checked : session.run.state = .preconditionChecked) :
    acceptOptions options session = .ok () left ↔
      ∃ completed,
        Options.complete (Declared.parameters session.run.blueprint) options = .ok completed ∧
        left = (session.withOptions completed).withState .optionsGathered := by
  cases hcomplete : Options.complete (Declared.parameters session.run.blueprint) options with
  | ok completed =>
    rw [acceptOptions_of_complete checked hcomplete]
    constructor
    · rintro ⟨⟩
      exact ⟨completed, rfl, rfl⟩
    · rintro ⟨_, ⟨⟩, rfl⟩
      rfl
  | error complaint =>
    rw [acceptOptions_of_complaint checked hcomplete]
    constructor
    · nofun
    · rintro ⟨_, ⟨⟩, _⟩

/-- A run that does not take options over is left as it was, with the complaint. -/
theorem acceptOptions_eq_error_iff (checked : session.run.state = .preconditionChecked)
    {error : BlueprintError} :
    acceptOptions options session = .error error left ↔
      ∃ complaint,
        Options.complete (Declared.parameters session.run.blueprint) options = .error complaint ∧
        error = .validation complaint ∧ left = session := by
  cases hcomplete : Options.complete (Declared.parameters session.run.blueprint) options with
  | ok completed =>
    rw [acceptOptions_of_complete checked hcomplete]
    constructor
    · nofun
    · rintro ⟨_, ⟨⟩, _⟩
  | error complaint =>
    rw [acceptOptions_of_complaint checked hcomplete]
    constructor
    · rintro ⟨⟩
      exact ⟨complaint, rfl, rfl, rfl⟩
    · rintro ⟨_, ⟨⟩, rfl, rfl⟩
      rfl

/-- Options can be taken over exactly if every value, given or by default, fits its parameter and
every required parameter has one. The options accepted are then those given, with the defaults of
the parameters that had no value and nothing else, and any other run with these parameters takes
them over unchanged. Otherwise the run is as it was, and the complaint is that of the first
parameter which is not content, whose name it says. -/
theorem acceptOptions_closes (checked : session.run.state = .preconditionChecked)
    (distinct : ((Declared.parameters session.run.blueprint).map Parameter.name).Nodup)
    (options : Options) :
    ((∃ left, acceptOptions options session = .ok () left) ↔
        ∀ parameter ∈ Declared.parameters session.run.blueprint, parameter.Content options) ∧
      (∀ left, acceptOptions options session = .ok () left →
        left = (session.withOptions left.run.options).withState .optionsGathered ∧
        options.ClosedBy (Declared.parameters session.run.blueprint) left.run.options ∧
        ∀ fresh : Session β ω, fresh.run.state = .preconditionChecked →
          Declared.parameters fresh.run.blueprint =
            Declared.parameters session.run.blueprint →
          acceptOptions left.run.options fresh =
            .ok () ((fresh.withOptions left.run.options).withState .optionsGathered)) ∧
      ∀ error left, acceptOptions options session = .error error left →
        left = session ∧ ∃ before parameter after complaint words,
          Declared.parameters session.run.blueprint = before ++ parameter :: after ∧
          (∀ other ∈ before, other.Content options) ∧ ¬parameter.Content options ∧
          parameter.Objects options complaint ∧ error = .validation complaint ∧
          complaint = "--" ++ parameter.name ++ words := by
  refine ⟨?_, ?_, ?_⟩
  · rw [← Options.exists_complete_iff distinct]
    simp only [acceptOptions_eq_ok_iff checked]
    constructor
    · rintro ⟨left, completed, hcompleted, -⟩
      exact ⟨completed, hcompleted⟩
    · rintro ⟨completed, hcompleted⟩
      exact ⟨_, completed, hcompleted, rfl⟩
  · intro left haccept
    obtain ⟨completed, hcompleted, rfl⟩ := (acceptOptions_eq_ok_iff checked).mp haccept
    refine ⟨rfl, Options.closedBy_of_complete distinct hcompleted, ?_⟩
    intro fresh hfresh hparameters
    have hagain := Options.complete_complete distinct hcompleted
    rw [← hparameters] at hagain
    exact acceptOptions_of_complete hfresh hagain
  · intro error left hrefuse
    obtain ⟨complaint, hcomplaint, rfl, rfl⟩ := (acceptOptions_eq_error_iff checked).mp hrefuse
    obtain ⟨before, parameter, after, hparameters, hbefore, hobjects⟩ :=
      Options.refusedBy_of_complete distinct hcomplaint
    obtain ⟨words, hwords⟩ := hobjects.exists_words
    exact ⟨rfl, before, parameter, after, complaint, words, hparameters, hbefore,
      hobjects.not_content, hobjects, rfl, hwords⟩

end Session

/-- A blueprint that needs a name and has a style and a draft mark by default. -/
def page : FixedBlueprint :=
  ⟨"page", "", [⟨"name", .text, "", true, true, none⟩,
    ⟨"style", .choice ["plain", "wide"], "", false, false, some (.text "plain")⟩,
    ⟨"draft", .boolean, "", true, false, some (.flag true)⟩], true, [], none, none, none⟩

/-- A run of the page that is about to take options over. -/
def pageSession : Session FixedBlueprint Unit :=
  ⟨{ BlueprintRun.start page with state := .preconditionChecked }, ()⟩

/-- A name and something that the page does not know are taken over beside the defaults, and an
unknown style is refused although the draft mark behind it does not fit either. -/
theorem acceptOptions_closes_page :
    (∃ left, Session.acceptOptions ⟨[("ink", .flag true), ("name", .text "a")]⟩ pageSession =
        .ok () left ∧
      left.run.options = ⟨[("draft", .flag true), ("ink", .flag true), ("name", .text "a"),
        ("style", .text "plain")]⟩ ∧
      Options.ClosedBy page.parameters ⟨[("ink", .flag true), ("name", .text "a")]⟩
        left.run.options ∧
      Session.acceptOptions left.run.options pageSession =
        .ok () ((pageSession.withOptions left.run.options).withState .optionsGathered)) ∧
    ∃ before parameter after complaint words,
      page.parameters = before ++ parameter :: after ∧
      Session.acceptOptions ⟨[("draft", .text "no"), ("name", .text "a"), ("style", .text "odd")]⟩
        pageSession = .error (.validation complaint) pageSession ∧
      complaint = "--" ++ parameter.name ++ words ∧
      complaint = "--style must be one of: plain, wide (got 'odd')" := by
  have hparameters : Declared.parameters pageSession.run.blueprint = page.parameters := rfl
  have distinct : ((Declared.parameters pageSession.run.blueprint).map Parameter.name).Nodup := by
    decide
  obtain ⟨-, hcloses, -⟩ := @Session.acceptOptions_closes _ _ _ pageSession rfl distinct
    ⟨[("ink", .flag true), ("name", .text "a")]⟩
  obtain ⟨-, -, hrefuses⟩ := @Session.acceptOptions_closes _ _ _ pageSession rfl distinct
    ⟨[("draft", .text "no"), ("name", .text "a"), ("style", .text "odd")]⟩
  constructor
  · obtain ⟨-, hclosed, hagain⟩ := hcloses _ rfl
    exact ⟨_, rfl, by decide, hclosed, hagain pageSession rfl rfl⟩
  · have hrefused : Session.acceptOptions
        ⟨[("draft", .text "no"), ("name", .text "a"), ("style", .text "odd")]⟩ pageSession =
        .error (.validation "--style must be one of: plain, wide (got 'odd')") pageSession := rfl
    obtain ⟨-, before, parameter, after, complaint, words, hsplit, -, -, -, hcomplaint, hwords⟩ :=
      hrefuses _ _ hrefused
    cases hcomplaint
    exact ⟨before, parameter, after, _, words, hsplit, hrefused, hwords, rfl⟩

end Scaffold
