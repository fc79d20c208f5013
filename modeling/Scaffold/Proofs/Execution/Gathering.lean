import Scaffold.Blueprint.Recorded
import Scaffold.Proofs.Execution.Keeping
import Scaffold.Proofs.Lifecycle.Closure

/-!
# Options on their way to the blueprint

An execution may ask its user for values before its run is told to accept options. A user that is
not there gives none that matter: either nothing is missing and nothing is asked, or a value is
missing that no proposal provides. So an unattended execution does with its options what accepting
them does. A user that follows a script adds values only where it may be asked and only if a
required value is missing.
-/

namespace Scaffold

/-- The options of a call to prepare. -/
def BlueprintCall.preparation? : BlueprintCall → Option Options
  | prepare options => some options
  | _ => none

namespace Recorded

variable {β ω : Type}

/-- The options that the blueprint was told to prepare itself for, in order. -/
def preparations (recorded : Recorded β) : List Options :=
  recorded.calls.filterMap BlueprintCall.preparation?

/-- A call is noted after those before it, also when it fails. -/
theorem preparations_after_noting {α : Type} (call : BlueprintCall)
    (step : Task BlueprintError (β × ω) α) (state : Recorded β × ω) :
    ((noting call step).after state).1.preparations =
      state.1.preparations ++ call.preparation?.toList := by
  have hcalls : ((noting call step).after state).1.calls = state.1.calls ++ [call] := by
    obtain ⟨recorded, host⟩ := state
    unfold Task.after noting
    dsimp only
    cases step (recorded.blueprint, host) <;> rfl
  rw [preparations, hcalls, List.filterMap_append, List.filterMap_cons]
  cases call.preparation? <;> rfl

/-- Generating changes and the last word are no preparations. -/
theorem keptOnwards_preparations [Blueprint β ω] (preparations : List Options) :
    KeptOnwards ω fun recorded : Recorded β => recorded.preparations = preparations where
  generate state hkept := by
    have hnoted := preparations_after_noting .generate Blueprint.generate state
    rw [hkept] at hnoted
    exact hnoted.trans (List.append_nil _)
  postApply state hkept := by
    have hnoted := preparations_after_noting .postApply Blueprint.postApply state
    rw [hkept] at hnoted
    exact hnoted.trans (List.append_nil _)

end Recorded

/-- A run prepares its blueprint once, for the options accepted, also where that fails. -/
theorem Session.ensures_prepare_recorded {β ω : Type} [Blueprint β ω] (accepted : Options) :
    Task.Ensures
      (fun session : Session (Recorded β) ω => session.run.state = .optionsGathered ∧
        session.run.options = accepted ∧ session.run.blueprint.preparations = [])
      Session.prepare (fun _ => Has fun recorded => recorded.preparations = [accepted])
      (fun _ => Has fun recorded => recorded.preparations = [accepted]) := by
  rintro session ⟨hstate, rfl, hnone⟩
  have hnoted := Recorded.preparations_after_noting (.prepare session.run.options)
    (Blueprint.prepare session.run.options) (session.run.blueprint, session.host)
  rw [hnone] at hnoted
  cases hprepare : (Blueprint.prepare session.run.options :
      Task BlueprintError (Recorded β × ω) Unit) (session.run.blueprint, session.host) with
  | ok _ left =>
    rw [Session.prepare_of_ok hstate hprepare]
    exact (congrArg (·.1.preparations) (Task.after_of_ok hprepare)).symm.trans hnoted
  | error error left =>
    rw [Session.prepare_of_error hstate hprepare]
    exact (congrArg (·.1.preparations) (Task.after_of_error hprepare)).symm.trans hnoted

section Replies

variable {reply : Question → Option OptionValue} {questions : List Question} {options : Options}
  {name : String}

/-- The options of the replies to questions. -/
def Options.ofReplies (reply : Question → Option OptionValue) (questions : List Question) :
    Options :=
  Options.ofList (questions.filterMap fun question =>
    (reply question).map (question.parameter.name, ·))

/-- Replies leave the values of names to which there is none. -/
theorem Options.find?_insertAll_ofReplies
    (h : ∀ question ∈ questions, question.parameter.name = name → reply question = none) :
    (options.insertAll (ofReplies reply questions).entries).find? name = options.find? name := by
  apply find?_insertAll_of_not_mem
  intro hname
  obtain ⟨entry, hentry, rfl⟩ := List.mem_map.mp hname
  obtain hreply | hempty := mem_insertAll hentry
  · obtain ⟨question, hquestion, hreplied⟩ := List.mem_filterMap.mp hreply
    obtain ⟨value, hvalue, rfl⟩ := Option.map_eq_some_iff.mp hreplied
    have hnone := h question hquestion rfl
    rw [hvalue] at hnone
    cases hnone
  · cases hempty

end Replies

namespace Execution

variable {β ω ι : Type}

section Asking

variable {parameters : List Parameter} {options : Options}

/-- A question is about a parameter that may be asked for, and proposes the value it has. -/
theorem exists_parameter_of_mem_questions {question : Question}
    (h : question ∈ questions parameters options) :
    ∃ parameter ∈ parameters, parameter.ask = true ∧ question.parameter = parameter ∧
      question.default? = parameter.value? options := by
  obtain ⟨parameter, hparameter, rfl⟩ := List.mem_map.mp h
  obtain ⟨hmem, hask⟩ := List.mem_filter.mp hparameter
  exact ⟨parameter, hmem, hask, rfl, rfl⟩

/-- Taking every proposal leaves a parameter without a value that lacks one. -/
theorem lacks_of_proposals (distinct : (parameters.map Parameter.name).Nodup)
    {parameter : Parameter} (hparameter : parameter ∈ parameters)
    (hlacks : options.Lacks parameter) :
    (options.insertAll (Unattended.answers (questions parameters options)).entries).Lacks
      parameter := by
  refine ⟨hlacks.1, hlacks.2.1, Eq.trans ?_ hlacks.2.2⟩
  refine Options.find?_insertAll_ofReplies fun question hquestion hname => ?_
  obtain ⟨other, hother, -, rfl, hproposal⟩ := exists_parameter_of_mem_questions hquestion
  have hsame := List.inj_on_of_nodup_map distinct hother hparameter hname
  rw [hproposal, hsame]
  exact (Options.lacks_iff.mp hlacks).2

/-- A script changes values only where it may be asked. -/
theorem exists_asked_of_reply {user : Scripted} {name : String}
    (h : (options.insertAll (user.reply (questions parameters options)).entries).find? name ≠
      options.find? name) :
    ∃ parameter ∈ parameters, parameter.ask = true ∧ parameter.name = name := by
  by_contra hnone
  refine h (Options.find?_insertAll_ofReplies fun question hquestion hname => ?_)
  obtain ⟨parameter, hparameter, hask, rfl, -⟩ := exists_parameter_of_mem_questions hquestion
  exact absurd ⟨question.parameter, hparameter, hask, hname⟩ hnone

end Asking

section Obeying

/-- A fresh execution of a blueprint whose calls are recorded. -/
def recording (blueprint : β) (host : ω) (user : ι) : Execution (Recorded β) ω ι :=
  start ⟨blueprint, []⟩ host user

/-- The options that the blueprint of an execution was told to prepare itself for, in order. -/
def preparations (execution : Execution (Recorded β) ω ι) : List Options :=
  execution.session.run.blueprint.preparations

/-- An execution does with its options what accepting other options does: it prepares its
blueprint once, for what is made of those, if they are accepted, and otherwise it is rejected. -/
structure Obeys [Blueprint β ω] [FileHost ω] [Interaction ι] (handed options : Options)
    (dryRun : Bool) (blueprint : β) (host : ω) (user : ι) : Prop where
  /-- The blueprint is prepared exactly if its run accepts the options. -/
  reaches : ((execute true dryRun options).after (recording blueprint host user)).preparations ≠
      [] ↔
    ∃ left, Session.acceptOptions handed (Session.checked (⟨blueprint, []⟩ : Recorded β) host) =
      .ok () left
  /-- Then it is prepared for the options accepted. -/
  prepares : ∀ left, Session.acceptOptions handed
      (Session.checked (⟨blueprint, []⟩ : Recorded β) host) = .ok () left →
    ((execute true dryRun options).after (recording blueprint host user)).preparations =
      [left.run.options]
  /-- Otherwise the execution is rejected, and the host is as it was. -/
  rejects : ∀ error left, Session.acceptOptions handed
      (Session.checked (⟨blueprint, []⟩ : Recorded β) host) = .error error left →
    ∃ ended, execute true dryRun options (recording blueprint host user) = .ok .rejected ended ∧
      ended.session.host = host

variable [Blueprint β ω] [FileHost ω] [Interaction ι] {handed options : Options}
  {dryRun : Bool} {blueprint : β} {host : ω} {user asked : ι}

/-- If the options are accepted, the blueprint has to be prepared for what is made of them. -/
theorem Obeys.of_accepted {left : Session (Recorded β) ω}
    (haccept : Session.acceptOptions handed (Session.checked ⟨blueprint, []⟩ host) = .ok () left)
    (hprepared : ((execute true dryRun options).after
      (recording blueprint host user)).preparations = [left.run.options]) :
    Obeys handed options dryRun blueprint host user where
  reaches := by
    rw [hprepared]
    exact ⟨fun _ => ⟨left, haccept⟩, fun _ => List.cons_ne_nil _ _⟩
  prepares other hother := by
    rw [haccept] at hother
    cases hother
    exact hprepared
  rejects error other hother := by
    rw [haccept] at hother
    cases hother

/-- If they are refused, the execution has to be rejected before anything is prepared. -/
theorem Obeys.of_refused {error : BlueprintError} {left : Session (Recorded β) ω} {told : ι}
    (hrefuse : Session.acceptOptions handed (Session.checked ⟨blueprint, []⟩ host) =
      .error error left)
    (hrejected : execute true dryRun options (recording blueprint host user) =
      .ok .rejected ⟨Session.checked ⟨blueprint, []⟩ host, told⟩) :
    Obeys handed options dryRun blueprint host user where
  reaches := by
    rw [Task.after_of_ok hrejected]
    refine ⟨fun h => absurd rfl h, ?_⟩
    rintro ⟨other, hother⟩
    rw [hrefuse] at hother
    cases hother
  prepares other hother := by
    rw [hrefuse] at hother
    cases hother
  rejects _ _ _ := ⟨_, hrejected, rfl⟩

/-- All options that are refused are obeyed alike. -/
theorem Obeys.of_obeys_refused {other : Options} {error error' : BlueprintError}
    {left left' : Session (Recorded β) ω} (h : Obeys other options dryRun blueprint host user)
    (hother : Session.acceptOptions other (Session.checked ⟨blueprint, []⟩ host) =
      .error error left)
    (hrefuse : Session.acceptOptions handed (Session.checked ⟨blueprint, []⟩ host) =
      .error error' left') :
    Obeys handed options dryRun blueprint host user where
  reaches := by
    rw [h.reaches, hother, hrefuse]
    exact ⟨nofun, nofun⟩
  prepares accepted haccept := by
    rw [hrefuse] at haccept
    cases haccept
  rejects _ _ _ := h.rejects error left hother

/-- A user that can be told what went wrong. -/
def Hears (ι : Type) [Interaction ι] : Prop :=
  ∀ (message : String) (user : ι), ∃ told, Interaction.error message user = .ok () told

/-- Where nobody is asked, what went wrong is told. -/
theorem hears_unattended : Hears Unattended := fun _ _ => ⟨_, rfl⟩

/-- A user with a script is told what went wrong. -/
theorem hears_scripted : Hears Scripted := fun _ _ => ⟨_, rfl⟩

/-- A complaint about the options ends the execution as rejected. -/
theorem execute_of_complaint (hears : Hears ι) (dryRun : Bool) {β : Type} [Blueprint β ω]
    {blueprint : β} {complaint : String}
    (h : takeOptions true options (start blueprint host user) =
      .error (.validation complaint) ⟨Session.checked blueprint host, asked⟩) :
    ∃ told, execute true dryRun options (start blueprint host user) =
      .ok .rejected ⟨Session.checked blueprint host, told⟩ := by
  obtain ⟨told, htold⟩ := hears ("Cannot proceed: " ++ complaint) asked
  have hsays : onUser (Interaction.error ("Cannot proceed: " ++ complaint))
      (⟨Session.checked blueprint host, asked⟩ : Execution β ω ι) =
      .ok () ⟨Session.checked blueprint host, told⟩ := onUser_of_ok htold
  have hfails : (takeOptions true options >>= fun _ => onward dryRun)
      (start blueprint host user) =
      .error (.validation complaint) ⟨Session.checked blueprint host, asked⟩ :=
    Task.bind_of_error h
  refine ⟨told, ?_⟩
  rw [execute_eq_close_onward, close, hfails]
  exact Task.bind_of_ok hsays

/-- An execution obeys the options that it gathers. -/
theorem obeys_of_gather (hears : Hears ι)
    (hgather : gather (Declared.parameters blueprint) options user = .ok handed asked) :
    Obeys handed options dryRun blueprint host user := by
  have htakes : takeOptions true options (recording blueprint host user) =
      onSession (Session.acceptOptions handed) ⟨Session.checked ⟨blueprint, []⟩ host, asked⟩ :=
    takeOptions_of_gather host hgather
  cases haccept : Session.acceptOptions handed
      (Session.checked (⟨blueprint, []⟩ : Recorded β) host) with
  | ok _ left =>
    have hgathered : left.run.state = .optionsGathered ∧ left.run.options = left.run.options ∧
        left.run.blueprint.preparations = [] := by
      obtain ⟨accepted, -, rfl⟩ := (Session.acceptOptions_eq_ok_iff rfl).mp haccept
      exact ⟨rfl, rfl, rfl⟩
    have hgoes : execute true dryRun options (recording blueprint host user) =
        close (onward dryRun) ⟨left, asked⟩ := by
      rw [execute_eq_close_onward]
      exact close_congr (Task.bind_of_ok (htakes.trans (onSession_of_ok haccept)))
    have hends := has_after_close (Recorded.keptOnwards_preparations [left.run.options])
      (Session.ensures_prepare_recorded left.run.options) dryRun ⟨left, asked⟩ hgathered
    refine .of_accepted haccept ?_
    unfold Task.after at hends ⊢
    rw [hgoes]
    exact hends
  | error error left =>
    obtain ⟨complaint, -, rfl, rfl⟩ := (Session.acceptOptions_eq_error_iff rfl).mp haccept
    obtain ⟨told, hrejected⟩ :=
      execute_of_complaint hears dryRun (htakes.trans (onSession_of_error haccept))
    exact .of_refused haccept hrejected

omit [FileHost ω] in
/-- Where a required value is missing, no run accepts the options. -/
theorem exists_refusal_of_lacks
    (distinct : ((Declared.parameters blueprint : List Parameter).map Parameter.name).Nodup)
    (host : ω) {parameter : Parameter} (hparameter : parameter ∈ Declared.parameters blueprint)
    (hlacks : handed.Lacks parameter) :
    ∃ error left, Session.acceptOptions handed
      (Session.checked (⟨blueprint, []⟩ : Recorded β) host) = .error error left := by
  cases haccept : Session.acceptOptions handed
      (Session.checked (⟨blueprint, []⟩ : Recorded β) host) with
  | error error left => exact ⟨error, left, rfl⟩
  | ok _ left =>
    obtain ⟨completed, hcompleted, -⟩ := (Session.acceptOptions_eq_ok_iff rfl).mp haccept
    have hcontent := (Options.exists_complete_iff distinct).mp ⟨completed, hcompleted⟩
    obtain ⟨hneeds, hnone⟩ := Options.lacks_iff.mp hlacks
    exact absurd (hcontent parameter hparameter)
      (Parameter.Objects.lacking hneeds hnone).not_content

/-- An unattended execution obeys the options that it is given. -/
theorem obeys_unattended
    (distinct : ((Declared.parameters blueprint : List Parameter).map Parameter.name).Nodup)
    (options : Options) (dryRun : Bool) (host : ω) (user : Unattended) :
    Obeys options options dryRun blueprint host user := by
  obtain ⟨-, hgather⟩ | ⟨parameter, hparameter, hlacks, hasked⟩ :=
    gather_cases (Declared.parameters blueprint) options
  · exact obeys_of_gather hears_unattended (congrFun hgather user)
  · obtain ⟨error, left, hrefuse⟩ := exists_refusal_of_lacks distinct host hparameter hlacks
    obtain hflag | hproposals := hasked
    · have htakes : takeOptions true options (recording blueprint host user) =
          .error _ ⟨Session.checked ⟨blueprint, []⟩ host, user⟩ :=
        takeOptions_of_gather_error host (congrFun hflag user)
      obtain ⟨told, hrejected⟩ := execute_of_complaint hears_unattended dryRun htakes
      exact .of_refused hrefuse hrejected
    · -- The proposals leave the value missing, so the options with them are refused as well.
      have hstill := lacks_of_proposals distinct hparameter hlacks
      obtain ⟨_, _, hagain⟩ := exists_refusal_of_lacks distinct host hparameter hstill
      exact .of_obeys_refused (obeys_of_gather hears_unattended (congrFun hproposals user)) hagain
        hrefuse

/-- What a script may do to the options given: it gives values to parameters that may be asked for,
and only if a required value is missing. -/
structure Supplies (parameters : List Parameter) (options handed : Options) : Prop where
  /-- Values are given where they may be asked for. -/
  asked : ∀ name, handed.find? name ≠ options.find? name →
    ∃ parameter ∈ parameters, parameter.ask = true ∧ parameter.name = name
  /-- Nothing is given unless a required value is missing that no default gives. -/
  needed : handed ≠ options → ∃ parameter ∈ parameters, options.Lacks parameter
  /-- No entry is removed. -/
  keeps : ∀ name, options.contains name = true → handed.contains name = true

omit [Blueprint β ω] [FileHost ω] in
/-- A script does to the options no more than it may. -/
theorem supplies_of_gather {parameters : List Parameter} {user asked : Scripted}
    (h : gather parameters options user = .ok handed asked) :
    Supplies parameters options handed := by
  obtain ⟨-, hgather⟩ | ⟨parameter, hparameter, hlacks, hgather | hgather⟩ :=
    gather_cases parameters options
  · rw [hgather] at h
    cases h
    exact ⟨fun _ hne => absurd rfl hne, fun hne => absurd rfl hne, fun _ => id⟩
  · rw [hgather] at h
    cases h
  · have hhanded : handed =
        options.insertAll (user.reply (questions parameters options)).entries := by
      rw [hgather] at h
      cases h
      rfl
    subst hhanded
    exact ⟨fun _ => exists_asked_of_reply, fun _ => ⟨parameter, hparameter, hlacks⟩,
      fun _ => Options.isSome_find?_insertAll⟩

/-- An unattended execution of an active blueprint prepares it exactly if its run would accept the
options given, and then for what is made of them; otherwise it is rejected and leaves the host. A
script may add values to the options before the run is told to accept them, but only where it may
be asked and a required value is missing. -/
theorem execute_obeys
    (distinct : ((Declared.parameters blueprint : List Parameter).map Parameter.name).Nodup)
    (options : Options) (dryRun : Bool) (host : ω) :
    (∀ user : Unattended, Obeys options options dryRun blueprint host user) ∧
      ∀ (user : Scripted) (handed : Options) (asked : Execution (Recorded β) ω Scripted),
        ensureOptions options ⟨Session.checked ⟨blueprint, []⟩ host, user⟩ = .ok handed asked →
        Obeys handed options dryRun blueprint host user ∧
          Supplies (Declared.parameters blueprint) options handed := by
  refine ⟨obeys_unattended distinct options dryRun host, fun user handed asked hensure => ?_⟩
  rw [ensureOptions_checked] at hensure
  cases hgather : gather (Declared.parameters (⟨blueprint, []⟩ : Recorded β)) options user with
  | error error told =>
    rw [onUser_of_error hgather] at hensure
    cases hensure
  | ok found told =>
    rw [onUser_of_ok hgather] at hensure
    cases hensure
    exact ⟨obeys_of_gather hears_scripted hgather, supplies_of_gather hgather⟩

end Obeying

/-- The page needs a name, which an unattended execution is not given and a script gives; the style
that the script has as well is not asked for. -/
theorem execute_obeys_page :
    (∃ ended, execute true false Options.empty
        (recording page (MemoryHost.withFiles []) (Unattended.start false)) =
          .ok .rejected ended ∧
      ended.session.host = MemoryHost.withFiles []) ∧
    ((execute true false ⟨[("name", .text "a")]⟩).after
        (recording page (MemoryHost.withFiles []) (Unattended.start false))).preparations =
      [⟨[("draft", .flag true), ("name", .text "a"), ("style", .text "plain")]⟩] ∧
    ((execute true false Options.empty).after
        (recording page (MemoryHost.withFiles [])
          (Scripted.start ⟨[("name", .text "b"), ("style", .text "wide")]⟩ []))).preparations =
      [⟨[("draft", .flag true), ("name", .text "b"), ("style", .text "plain")]⟩] ∧
    Supplies page.parameters Options.empty ⟨[("name", .text "b")]⟩ := by
  have distinct : (page.parameters.map Parameter.name).Nodup := by decide
  have hnone := @execute_obeys FixedBlueprint MemoryHost _ _ page distinct Options.empty false
    (MemoryHost.withFiles [])
  have hnamed := @execute_obeys FixedBlueprint MemoryHost _ _ page distinct
    ⟨[("name", .text "a")]⟩ false (MemoryHost.withFiles [])
  obtain ⟨hscripted, hsupplies⟩ := hnone.2
    (Scripted.start ⟨[("name", .text "b"), ("style", .text "wide")]⟩ []) ⟨[("name", .text "b")]⟩ _
    rfl
  exact ⟨(hnone.1 _).rejects _ _ rfl, (hnamed.1 _).prepares _ rfl, hscripted.prepares _ rfl,
    hsupplies⟩

end Execution

end Scaffold
