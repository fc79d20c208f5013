import Mathlib.Data.List.Nodup
import Scaffold.Blueprint.Lifecycle
import Scaffold.Proofs.Options

/-!
# Completing options

Options are completed parameter by parameter: a default is filled in where no value was given, and
then the value has to fit. Filling in one parameter leaves the values of the others, so with
distinct names each parameter is judged by what was given for it and by its own default: either
all are content and every default that was missing is there, or the first one that is not objects.
-/

namespace Scaffold

/-- The name of the parameter that a fault is about. -/
def ParameterFault.about : ParameterFault → String
  | needsFlag name _ => name
  | needsText name _ => name
  | notChoice name _ _ => name

/-- The words for a fault begin with the parameter that it is about. -/
theorem ParameterFault.exists_words (fault : ParameterFault) :
    ∃ words, fault.message = "--" ++ fault.about ++ words := by
  cases fault
  all_goals
    simp only [message, about, String.append_assoc, String.append_right_inj]
    exact ⟨_, rfl⟩

namespace Parameter

variable {parameter other : Parameter} {options given : Options}

/-- The value of a parameter: the one given, or else its default. -/
def value? (parameter : Parameter) (options : Options) : Option OptionValue :=
  (options.find? parameter.name).or parameter.default?

/-- The default that a parameter of this name has among others. -/
def defaultFor? (parameters : List Parameter) (name : String) : Option OptionValue :=
  (parameters.find? (·.name == name)).bind (·.default?)

/-- The parameter has a value that fits, or it has none and needs none. -/
structure Content (options : Options) (parameter : Parameter) : Prop where
  /-- A value, given or by default, fits. -/
  fits : ∀ value, parameter.value? options = some value → parameter.accepts value = true
  /-- There is a value if one is needed. -/
  filled : parameter.require = true → (parameter.value? options).isSome = true

/-- What a parameter that is not content has to say. -/
inductive Objects (options : Options) (parameter : Parameter) : String → Prop
  /-- Its value, given or by default, does not fit. -/
  | unfit {value : OptionValue} {fault : ParameterFault}
      (has : parameter.value? options = some value)
      (wrong : parameter.fault? value = some fault) : Objects options parameter fault.message
  /-- It needs a value, and there is none. -/
  | lacking (needs : parameter.require = true) (has : parameter.value? options = none) :
      Objects options parameter parameter.unspecified

/-- A parameter that objects is not content. -/
theorem Objects.not_content {complaint : String} (h : parameter.Objects options complaint) :
    ¬parameter.Content options := by
  intro content
  cases h with
  | unfit has wrong =>
    have haccepts := content.fits _ has
    rw [accepts, wrong] at haccepts
    cases haccepts
  | lacking needs has =>
    have hfilled := content.filled needs
    rw [has] at hfilled
    cases hfilled

/-- A fault is about the parameter whose value it was found in. -/
theorem about_of_fault? {value : OptionValue} {fault : ParameterFault}
    (h : parameter.fault? value = some fault) : fault.about = parameter.name := by
  cases value with
  | flag given =>
    rw [fault?] at h
    split at h <;> cases h
    rfl
  | text given =>
    rw [fault?] at h
    split at h
    case h_1 =>
      cases h
      rfl
    case h_2 choices _ =>
      split at h <;> cases h
      rfl
    case h_3 => cases h

/-- A parameter that objects says its name first. -/
theorem Objects.exists_words {complaint : String} (h : parameter.Objects options complaint) :
    ∃ words, complaint = "--" ++ parameter.name ++ words := by
  cases h with
  | unfit has wrong => exact about_of_fault? wrong ▸ ParameterFault.exists_words _
  | lacking => exact ⟨_, rfl⟩

/-- Whether a parameter is content depends on its own value only. -/
theorem content_congr (h : parameter.value? given = parameter.value? options) :
    parameter.Content given ↔ parameter.Content options :=
  ⟨fun ⟨fits, filled⟩ => ⟨h ▸ fits, h ▸ filled⟩, fun ⟨fits, filled⟩ => ⟨h ▸ fits, h ▸ filled⟩⟩

/-- So does what it has to say. -/
theorem Objects.congr {complaint : String} (h : parameter.value? given = parameter.value? options)
    (hobjects : parameter.Objects given complaint) : parameter.Objects options complaint := by
  cases hobjects with
  | unfit has wrong => exact .unfit (h ▸ has) wrong
  | lacking needs has => exact .lacking needs (h ▸ has)

/-- Filling in a default leaves the values of other names. -/
theorem find?_fillDefault_other {name : String} (h : name ≠ parameter.name) :
    (parameter.fillDefault options).find? name = options.find? name := by
  unfold fillDefault
  split
  · exact Options.find?_insert_other h
  · rfl

/-- A parameter without a value takes its default. -/
theorem find?_fillDefault_self :
    (parameter.fillDefault options).find? parameter.name = parameter.value? options := by
  unfold fillDefault value?
  cases hgiven : options.find? parameter.name with
  | some value => simp [hgiven]
  | none =>
    cases hdefault : parameter.default? with
    | some value => exact Options.find?_insert_same
    | none => exact hgiven

/-- Filling in a default keeps the order of the names. -/
theorem ordered_fillDefault (hordered : options.Ordered) :
    (parameter.fillDefault options).Ordered := by
  unfold fillDefault
  split
  · exact Options.pairwise_insertIn hordered
  · exact hordered

/-- The value of another parameter stays when a default is filled in. -/
theorem value?_fillDefault_other (h : other.name ≠ parameter.name) :
    other.value? (parameter.fillDefault options) = other.value? options := by
  rw [value?, value?, find?_fillDefault_other h]

/-- With its default filled in, a parameter complains of nothing exactly if it is content. -/
theorem complaint?_fillDefault_eq_none_iff :
    parameter.complaint? (parameter.fillDefault options) = none ↔ parameter.Content options := by
  rw [complaint?, find?_fillDefault_self]
  cases hvalue : parameter.value? options with
  | none =>
    dsimp only
    rw [ite_eq_right_iff]
    refine ⟨fun h => ⟨?_, fun hneeds => absurd (h hneeds) nofun⟩, fun h hneeds => ?_⟩
    · rw [hvalue]
      nofun
    · have hfilled := h.filled hneeds
      rw [hvalue] at hfilled
      cases hfilled
  | some value =>
    dsimp only
    rw [Option.map_eq_none_iff, ← Option.isNone_iff_eq_none]
    refine ⟨fun h => ⟨?_, fun _ => by rw [hvalue]; rfl⟩, fun h => h.fits value hvalue⟩
    rw [hvalue]
    rintro _ ⟨⟩
    exact h

/-- What it complains of otherwise is what it has to say. -/
theorem objects_of_complaint? {complaint : String}
    (h : parameter.complaint? (parameter.fillDefault options) = some complaint) :
    parameter.Objects options complaint := by
  rw [complaint?, find?_fillDefault_self] at h
  split at h
  case h_1 value hvalue =>
    obtain ⟨fault, hfault, rfl⟩ := Option.map_eq_some_iff.mp h
    exact .unfit hvalue hfault
  case h_2 hvalue =>
    split at h
    case isTrue hneeds =>
      cases h
      exact .lacking hneeds hvalue
    case isFalse => cases h

end Parameter

namespace Options

variable {parameters : List Parameter} {options completed : Options}

/-- The options given and the default of every parameter that has no value among them, and nothing
else. -/
structure ClosedBy (parameters : List Parameter) (options completed : Options) : Prop where
  /-- Values given stay, whether their names are known or not; defaults are added. -/
  find? : ∀ name, completed.find? name =
    (options.find? name).or (Parameter.defaultFor? parameters name)
  /-- The order of the names is kept. -/
  ordered : options.Ordered → completed.Ordered

/-- The first parameter that is not content objects. -/
def RefusedBy (parameters : List Parameter) (options : Options) (complaint : String) : Prop :=
  ∃ before parameter after, parameters = before ++ parameter :: after ∧
    (∀ other ∈ before, other.Content options) ∧ parameter.Objects options complaint

/-- Options closed by further parameters, once the default of the first one was filled in, are
closed by all of them. -/
theorem ClosedBy.of_fillDefault {parameter : Parameter} {rest : List Parameter}
    (hnew : parameter.name ∉ rest.map Parameter.name)
    (h : (parameter.fillDefault options).ClosedBy rest completed) :
    options.ClosedBy (parameter :: rest) completed where
  find? name := by
    rw [h.find?, Parameter.defaultFor?, Parameter.defaultFor?]
    by_cases hname : name = parameter.name
    · -- No later parameter has this name, so only the default just filled in can count.
      subst hname
      have hnone : rest.find? (·.name == parameter.name) = none := by
        rw [List.find?_eq_none]
        exact fun other hother hsame =>
          hnew (List.mem_map.mpr ⟨other, hother, beq_iff_eq.mp hsame⟩)
      have hfirst : (parameter :: rest).find? (·.name == parameter.name) = some parameter :=
        List.find?_cons_of_pos (beq_self_eq_true parameter.name)
      rw [hnone, hfirst, Parameter.find?_fillDefault_self, Parameter.value?]
      exact Option.or_none
    · rw [Parameter.find?_fillDefault_other hname, List.find?_cons_of_neg]
      exact fun hsame => hname (beq_iff_eq.mp hsame).symm
  ordered hordered := h.ordered (Parameter.ordered_fillDefault hordered)

/-- Options are completed if all parameters are content, and otherwise refused by the first one
that is not. -/
theorem complete_cases (options : Options) (distinct : (parameters.map Parameter.name).Nodup) :
    (∃ completed, complete parameters options = .ok completed ∧
        (∀ parameter ∈ parameters, parameter.Content options) ∧
        options.ClosedBy parameters completed) ∨
      ∃ complaint, complete parameters options = .error complaint ∧
        options.RefusedBy parameters complaint := by
  induction parameters generalizing options with
  | nil => exact .inl ⟨options, rfl, nofun, fun _ => (Option.or_none).symm, id⟩
  | cons parameter rest ih =>
    obtain ⟨hnew, hdistinct⟩ := List.nodup_cons.mp distinct
    have hkept : ∀ other ∈ rest,
        other.value? (parameter.fillDefault options) = other.value? options := by
      intro other hother
      refine Parameter.value?_fillDefault_other fun heq => hnew ?_
      rw [← heq]
      exact List.mem_map_of_mem hother
    rw [complete]
    cases hcomplaint : parameter.complaint? (parameter.fillDefault options) with
    | some complaint =>
      exact .inr ⟨complaint, rfl, [], parameter, rest, rfl, nofun,
        Parameter.objects_of_complaint? hcomplaint⟩
    | none =>
      have hcontent := Parameter.complaint?_fillDefault_eq_none_iff.mp hcomplaint
      obtain ⟨completed, hcompleted, hrest, hclosed⟩ |
          ⟨complaint, herror, before, other, after, rfl, hbefore, hobjects⟩ :=
        ih (parameter.fillDefault options) hdistinct
      · refine .inl ⟨completed, hcompleted, List.forall_mem_cons.mpr ⟨hcontent, ?_⟩,
          hclosed.of_fillDefault hnew⟩
        exact fun other hother =>
          (Parameter.content_congr (hkept other hother)).mp (hrest other hother)
      · refine .inr ⟨complaint, herror, parameter :: before, other, after, rfl,
          List.forall_mem_cons.mpr ⟨hcontent, ?_⟩, ?_⟩
        · exact fun earlier hearlier => (Parameter.content_congr
            (hkept earlier (List.mem_append_left _ hearlier))).mp (hbefore earlier hearlier)
        · exact hobjects.congr (hkept other (List.mem_append_right _ List.mem_cons_self))

/-- Options can be completed exactly if all parameters are content. -/
theorem exists_complete_iff (distinct : (parameters.map Parameter.name).Nodup) :
    (∃ completed, complete parameters options = .ok completed) ↔
      ∀ parameter ∈ parameters, parameter.Content options := by
  obtain ⟨completed, hcompleted, hcontent, -⟩ |
      ⟨complaint, herror, before, parameter, after, rfl, -, hobjects⟩ :=
    complete_cases options distinct
  · exact ⟨fun _ => hcontent, fun _ => ⟨completed, hcompleted⟩⟩
  · constructor
    · rintro ⟨completed, hcompleted⟩
      rw [herror] at hcompleted
      cases hcompleted
    · intro hcontent
      exact absurd (hcontent parameter (List.mem_append_right before List.mem_cons_self))
        hobjects.not_content

/-- The completed options are those given with the defaults that were missing. -/
theorem closedBy_of_complete (distinct : (parameters.map Parameter.name).Nodup)
    (h : complete parameters options = .ok completed) : options.ClosedBy parameters completed := by
  obtain ⟨_, hcompleted, -, hclosed⟩ | ⟨_, herror, -⟩ := complete_cases options distinct
  · rw [h] at hcompleted
    cases hcompleted
    exact hclosed
  · rw [h] at herror
    cases herror

/-- Options that are refused are so by the first parameter that is not content. -/
theorem refusedBy_of_complete (distinct : (parameters.map Parameter.name).Nodup)
    {complaint : String} (h : complete parameters options = .error complaint) :
    options.RefusedBy parameters complaint := by
  obtain ⟨_, hcompleted, -⟩ | ⟨_, herror, hrefused⟩ := complete_cases options distinct
  · rw [h] at hcompleted
    cases hcompleted
  · rw [h] at herror
    cases herror
    exact hrefused

/-- The default of a parameter among others with distinct names. -/
theorem defaultFor?_of_mem (distinct : (parameters.map Parameter.name).Nodup)
    {parameter : Parameter} (hparameter : parameter ∈ parameters) :
    Parameter.defaultFor? parameters parameter.name = parameter.default? := by
  have hfind : parameters.find? (·.name == parameter.name) = some parameter := by
    induction parameters with
    | nil => cases hparameter
    | cons first rest ih =>
      obtain ⟨hnew, hdistinct⟩ := List.nodup_cons.mp distinct
      rcases List.mem_cons.mp hparameter with rfl | hrest
      · exact List.find?_cons_of_pos (beq_self_eq_true _)
      · rw [List.find?_cons_of_neg, ih hdistinct hrest]
        exact fun hsame => hnew (beq_iff_eq.mp hsame ▸ List.mem_map_of_mem hrest)
  rw [Parameter.defaultFor?, hfind]
  rfl

/-- Options that lack no default and leave all parameters content are complete. -/
theorem complete_of_full (hcontent : ∀ parameter ∈ parameters, parameter.Content options)
    (hfull : ∀ parameter ∈ parameters, parameter.value? options = options.find? parameter.name) :
    complete parameters options = .ok options := by
  induction parameters with
  | nil => rfl
  | cons parameter rest ih =>
    obtain ⟨hfirst, hrest⟩ := List.forall_mem_cons.mp hcontent
    obtain ⟨hvalue, hvalues⟩ := List.forall_mem_cons.mp hfull
    have hfilled : parameter.fillDefault options = options := by
      unfold Parameter.fillDefault
      split
      case h_1 value hnone hdefault =>
        rw [Parameter.value?, hnone, hdefault] at hvalue
        cases hvalue
      case h_2 => rfl
    have hcomplaint := Parameter.complaint?_fillDefault_eq_none_iff.mpr hfirst
    rw [complete]
    rw [hfilled] at hcomplaint ⊢
    rw [hcomplaint]
    exact ih hrest hvalues

/-- Completing options a second time changes nothing. -/
theorem complete_complete (distinct : (parameters.map Parameter.name).Nodup)
    (h : complete parameters options = .ok completed) :
    complete parameters completed = .ok completed := by
  have hcontent := (exists_complete_iff distinct).mp ⟨completed, h⟩
  have hclosed := closedBy_of_complete distinct h
  have hfound : ∀ parameter ∈ parameters,
      completed.find? parameter.name = parameter.value? options := by
    intro parameter hparameter
    rw [hclosed.find?, defaultFor?_of_mem distinct hparameter, Parameter.value?]
  have hsame : ∀ parameter ∈ parameters,
      parameter.value? completed = parameter.value? options := by
    intro parameter hparameter
    rw [Parameter.value?, hfound parameter hparameter, Parameter.value?, Option.or_assoc,
      Option.or_self]
  refine complete_of_full (fun parameter hparameter => ?_) fun parameter hparameter => ?_
  · exact (Parameter.content_congr (hsame parameter hparameter)).mpr
      (hcontent parameter hparameter)
  · rw [hsame parameter hparameter, hfound parameter hparameter]

/-- The parameter needs a value, and neither the options nor a default give it one. -/
def Lacks (options : Options) (parameter : Parameter) : Prop :=
  parameter.require = true ∧ parameter.default? = none ∧ options.find? parameter.name = none

instance (options : Options) (parameter : Parameter) : Decidable (options.Lacks parameter) :=
  inferInstanceAs (Decidable (_ ∧ _ ∧ _))

/-- A parameter is lacking if it needs a value and has none. -/
theorem lacks_iff {parameter : Parameter} :
    options.Lacks parameter ↔ parameter.require = true ∧ parameter.value? options = none := by
  rw [Lacks, Parameter.value?, Option.or_eq_none_iff, and_comm (a := parameter.default? = none)]

/-- Where values and defaults fit their parameters, options can be completed unless a required
parameter has neither, and then the first such parameter is named. -/
theorem complete_of_accepts {parameters : List Parameter} {options : Options}
    (distinct : (parameters.map Parameter.name).Nodup)
    (given : ∀ parameter ∈ parameters, ∀ value, options.find? parameter.name = some value →
      parameter.accepts value = true)
    (defaults : ∀ parameter ∈ parameters, ∀ value, parameter.default? = some value →
      parameter.accepts value = true) :
    (∃ completed, complete parameters options = .ok completed ∧
        ∀ parameter ∈ parameters, ¬options.Lacks parameter) ∨
      ∃ parameter ∈ parameters, options.Lacks parameter ∧
        complete parameters options = .error parameter.unspecified := by
  obtain ⟨completed, hcompleted, hcontent, -⟩ |
      ⟨complaint, herror, before, parameter, after, rfl, -, hobjects⟩ :=
    complete_cases options distinct
  · refine .inl ⟨completed, hcompleted, fun parameter hparameter hlacks => ?_⟩
    obtain ⟨hneeds, hnone⟩ := lacks_iff.mp hlacks
    exact (Parameter.Objects.lacking hneeds hnone).not_content (hcontent parameter hparameter)
  · have hparameter : parameter ∈ before ++ parameter :: after :=
      List.mem_append_right before List.mem_cons_self
    cases hobjects with
    | lacking needs has => exact .inr ⟨parameter, hparameter, lacks_iff.mpr ⟨needs, has⟩, herror⟩
    | @unfit value fault has wrong =>
      have haccepts : parameter.accepts value = true := by
        rw [Parameter.value?, Option.or_eq_some_iff] at has
        exact has.elim (given parameter hparameter value)
          fun h => defaults parameter hparameter value h.2
      rw [Parameter.accepts, wrong] at haccepts
      cases haccepts

end Options

end Scaffold
