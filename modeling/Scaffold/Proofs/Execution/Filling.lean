import Scaffold.Execution
import Scaffold.Proofs.Lifecycle.Completion
import Scaffold.Proofs.Task

/-!
# Filling in missing values

Before a run is told to accept options, the values that are missing are filled in. The user alone
is concerned by that. Either nothing is missing, or something is missing that nobody may be asked
for, or everything is asked that may be asked, whoever the user is.
-/

namespace Scaffold

namespace Execution

variable {β ω ι κ : Type}

/-- Tasks on the user one after the other are one task on the user. -/
theorem onUser_bind {α γ : Type} (task : Task BlueprintError ι α)
    (next : α → Task BlueprintError ι γ) :
    (onUser (task >>= next) : Task BlueprintError (Execution β ω ι) γ) =
      onUser task >>= fun value => onUser (next value) := by
  funext execution
  rw [Task.bind_apply, onUser, onUser, Task.bind_apply]
  cases task execution.user <;> rfl

/-- The values for parameters: those given and, if one is missing that may be asked for, those that
the user answers. -/
def gather [Interaction ι] (parameters : List Parameter) (options : Options) :
    Task BlueprintError ι Options := do
  let missing := (Parameter.missing parameters options).filter (·.default?.isNone)
  match missing.find? (·.isFlagOnly) with
  | some parameter => throw (.validation parameter.unspecified)
  | none =>
    if missing.isEmpty then return options
    else
      let answers ← Interaction.ask ((parameters.filter (·.ask)).map (Question.of · options))
      return options.insertAll answers.entries

/-- Filling in missing values concerns the user only. -/
theorem ensureOptions_eq_gather [Interaction ι] [Declared β] (options : Options)
    (execution : Execution β ω ι) :
    ensureOptions options execution =
      onUser (gather (Declared.parameters execution.session.run.blueprint) options) execution := by
  unfold ensureOptions gather
  rw [Task.get_bind_apply]
  dsimp only
  cases ((Parameter.missing (Declared.parameters execution.session.run.blueprint) options).filter
      (·.default?.isNone)).find? (·.isFlagOnly) with
  | some parameter => rfl
  | none =>
    dsimp only
    split
    case isTrue => rfl
    case isFalse =>
      rw [onUser_bind]
      rfl

section Cases

variable {parameters : List Parameter} {options : Options}

/-- The parameters of which a value is missing are those that lack one. -/
theorem mem_missing_iff {parameter : Parameter} :
    parameter ∈ (Parameter.missing parameters options).filter (·.default?.isNone) ↔
      parameter ∈ parameters ∧ options.Lacks parameter := by
  simp only [Parameter.missing, Options.Lacks, Options.contains, List.mem_filter,
    Bool.and_eq_true, Bool.not_eq_true', Option.isSome_eq_false_iff, Option.isNone_iff_eq_none]
  tauto

/-- The questions about all parameters that may be asked for. -/
def questions (parameters : List Parameter) (options : Options) : List Question :=
  (parameters.filter (·.ask)).map (Question.of · options)

/-- Nothing is asked of anyone unless a required value is missing that no default gives. -/
theorem gather_cases (parameters : List Parameter) (options : Options) :
    ((∀ parameter ∈ parameters, ¬options.Lacks parameter) ∧
        ∀ {ι : Type} [Interaction ι],
          (gather parameters options : Task BlueprintError ι Options) = pure options) ∨
      ∃ parameter ∈ parameters, options.Lacks parameter ∧
        ((∀ {ι : Type} [Interaction ι],
            (gather parameters options : Task BlueprintError ι Options) =
              throw (.validation parameter.unspecified)) ∨
          ∀ {ι : Type} [Interaction ι],
            (gather parameters options : Task BlueprintError ι Options) =
              (options.insertAll ·.entries) <$>
                Interaction.ask (questions parameters options)) := by
  cases hflag : ((Parameter.missing parameters options).filter (·.default?.isNone)).find?
      (·.isFlagOnly) with
  | some parameter =>
    obtain ⟨hparameter, hlacks⟩ := mem_missing_iff.mp (List.mem_of_find?_eq_some hflag)
    refine .inr ⟨parameter, hparameter, hlacks, .inl ?_⟩
    simp only [gather, hflag, implies_true]
  | none =>
    cases hmissing : (Parameter.missing parameters options).filter (·.default?.isNone) with
    | nil =>
      refine .inl ⟨fun parameter hparameter hlacks => ?_, ?_⟩
      · have hmem := mem_missing_iff.mpr ⟨hparameter, hlacks⟩
        rw [hmissing] at hmem
        cases hmem
      · simp only [gather, hmissing, List.find?_nil, List.isEmpty_nil, if_true, implies_true]
    | cons parameter rest =>
      obtain ⟨hparameter, hlacks⟩ := mem_missing_iff.mp (hmissing ▸ List.mem_cons_self)
      refine .inr ⟨parameter, hparameter, hlacks, .inr fun {ι} _ => ?_⟩
      rw [hmissing] at hflag
      simp only [gather, hmissing, hflag, List.isEmpty_cons, Bool.false_eq_true, if_false]
      rfl

/-- A view that mirrors what is asked mirrors how values are gathered. -/
theorem mirrors_gather [Interaction ι] [Interaction κ] {view : ι → κ}
    (asks : ∀ questions, Task.Mirrors view
      (Interaction.ask questions : Task BlueprintError ι Options) (Interaction.ask questions))
    (parameters : List Parameter) (options : Options) :
    Task.Mirrors view (gather parameters options) (gather parameters options) := by
  obtain ⟨-, hgather⟩ | ⟨parameter, -, -, hgather | hgather⟩ := gather_cases parameters options
  · rw [hgather, hgather]
    exact Task.mirrors_pure _ _
  · rw [hgather, hgather]
    exact Task.mirrors_throw _ _
  · rw [hgather, hgather]
    exact Task.mirrors_map _ (asks _)

end Cases

end Execution

end Scaffold
