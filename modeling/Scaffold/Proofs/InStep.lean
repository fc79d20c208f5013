import Scaffold.Proofs.Change.Reach

/-!
# Tasks in step

Tasks on two kinds of states are in step if, from states that are related, they give the same
answer and leave related states. Changes are in step on two hosts on which reading and writing the
files they name are. What is in step stays in step over a run of tasks of which each is made
whether or not those before it succeeded.
-/

namespace Scaffold

variable {ε σ τ α γ κ μ : Type}

namespace Task

/-- What a task answers, be it a value or an error. -/
def answer (task : Task ε σ α) (state : σ) : Except ε α :=
  match task state with
  | .ok value _ => .ok value
  | .error error _ => .error error

theorem answer_of_ok {task : Task ε σ α} {state left : σ} {value : α}
    (h : task state = .ok value left) : task.answer state = .ok value := by
  simp only [answer, h]

theorem answer_of_error {task : Task ε σ α} {state left : σ} {error : ε}
    (h : task state = .error error left) : task.answer state = .error error := by
  simp only [answer, h]

/-- Whatever answers with a value succeeded with it. -/
theorem eq_of_answer_ok {task : Task ε σ α} {state : σ} {value : α}
    (h : task.answer state = .ok value) : task state = .ok value (task.after state) := by
  cases hr : task state with
  | ok other left =>
    rw [answer_of_ok hr] at h
    cases h
    rw [after_of_ok hr]
  | error error left =>
    rw [answer_of_error hr] at h
    cases h

theorem eq_of_answer_error {task : Task ε σ α} {state : σ} {error : ε}
    (h : task.answer state = .error error) : task state = .error error (task.after state) := by
  cases hr : task state with
  | ok value left =>
    rw [answer_of_ok hr] at h
    cases h
  | error other left =>
    rw [answer_of_error hr] at h
    cases h
    rw [after_of_error hr]

/-- From related states, both tasks answer alike and leave related states. -/
def InStep (related : σ → τ → Prop) (task : Task ε σ α) (other : Task ε τ α) : Prop :=
  ∀ left right, related left right →
    task.answer left = other.answer right ∧ related (task.after left) (other.after right)

/-- Tasks that succeed with one value are answered alike, whatever relates the states left. -/
theorem alike_of_ok {related : σ → τ → Prop} {task : Task ε σ α} {other : Task ε τ α} {left : σ}
    {right : τ} {value : α} {state : σ} {image : τ} (htask : task left = .ok value state)
    (hother : other right = .ok value image) (h : related state image) :
    task.answer left = other.answer right ∧ related (task.after left) (other.after right) := by
  rw [answer_of_ok htask, answer_of_ok hother, after_of_ok htask, after_of_ok hother]
  exact ⟨rfl, h⟩

section Combining

variable {related : σ → τ → Prop} {task : Task ε σ α} {other : Task ε τ α}

theorem inStep_pure (related : σ → τ → Prop) (value : α) :
    InStep related (pure value : Task ε σ α) (pure value) := fun _ _ h => ⟨rfl, h⟩

theorem inStep_throw (related : σ → τ → Prop) (error : ε) :
    InStep related (throw error : Task ε σ α) (throw error) := fun _ _ h => ⟨rfl, h⟩

/-- Tasks one after the other are in step if each of them is. -/
theorem inStep_bind {next : α → Task ε σ γ} {otherNext : α → Task ε τ γ}
    (first : InStep related task other)
    (rest : ∀ value, InStep related (next value) (otherNext value)) :
    InStep related (task >>= next) (other >>= otherNext) := by
  intro left right h
  obtain ⟨hanswer, hafter⟩ := first left right h
  cases hr : task left with
  | ok value state =>
    rw [answer_of_ok hr] at hanswer
    rw [after_of_ok hr] at hafter
    have hother := eq_of_answer_ok hanswer.symm
    have hrest := rest value state (other.after right) hafter
    unfold answer after at hrest ⊢
    rw [bind_of_ok hr, bind_of_ok hother]
    exact hrest
  | error error state =>
    rw [answer_of_error hr] at hanswer
    rw [after_of_error hr] at hafter
    have hother := eq_of_answer_error hanswer.symm
    unfold answer
    rw [after_of_error (bind_of_error hr), after_of_error (bind_of_error hother),
      bind_of_error hr, bind_of_error hother]
    exact ⟨rfl, hafter⟩

/-- What is made of the answer does not matter. -/
theorem inStep_map (f : α → γ) (h : InStep related task other) :
    InStep related (f <$> task) (f <$> other) := by
  rw [map_eq_pure_bind, map_eq_pure_bind]
  exact inStep_bind h fun value => inStep_pure related (f value)

/-- What a task answers and leaves is what its image does. -/
theorem Mirrors.answer_after {view : σ → τ} {image : Task ε τ α} (h : Mirrors view task image)
    (state : σ) : image.answer (view state) = task.answer state ∧
      image.after (view state) = view (task.after state) := by
  cases hr : task state with
  | ok value left =>
    rw [answer_of_ok hr, after_of_ok hr, answer_of_ok (h.of_ok hr), after_of_ok (h.of_ok hr)]
    exact ⟨rfl, rfl⟩
  | error error left =>
    rw [answer_of_error hr, after_of_error hr, answer_of_error (h.of_error hr),
      after_of_error (h.of_error hr)]
    exact ⟨rfl, rfl⟩

/-- What mirrors its image is in step with it. -/
theorem Mirrors.inStep {view : σ → τ} {image : Task ε τ α} (h : Mirrors view task image) :
    InStep (fun left right => view left = right) task image := by
  rintro left _ rfl
  obtain ⟨hanswer, hafter⟩ := h.answer_after left
  exact ⟨hanswer.symm, hafter.symm⟩

/-- Tasks that mirror one image are in step. -/
theorem Mirrors.inStep_of_image {υ : Type} {view : σ → υ} {otherView : τ → υ} {image : Task ε υ α}
    (h : Mirrors view task image) (hother : Mirrors otherView other image) :
    InStep (fun left right => view left = otherView right) task other := by
  intro left right hviews
  obtain ⟨hanswer, hafter⟩ := h.answer_after left
  obtain ⟨hanswer', hafter'⟩ := hother.answer_after right
  rw [hviews] at hanswer hafter
  exact ⟨hanswer.symm.trans hanswer', hafter.symm.trans hafter'⟩

end Combining

/-- What is asked in a run and what is answered; a failure does not stop the run. -/
def transcript (perform : κ → Task ε σ α) : List κ → σ → List (κ × Except ε α)
  | [], _ => []
  | step :: rest, state =>
    (step, (perform step).answer state) :: transcript perform rest ((perform step).after state)

/-- The state that a run leaves. -/
def afterAll (perform : κ → Task ε σ α) (steps : List κ) (state : σ) : σ :=
  steps.foldl (fun state step => (perform step).after state) state

/-- A run of which every step is in step is answered alike and leaves related states. -/
theorem transcript_of_inStep {related : σ → τ → Prop} {perform : κ → Task ε σ α}
    {other : κ → Task ε τ α} {steps : List κ}
    (h : ∀ step ∈ steps, InStep related (perform step) (other step)) {left : σ} {right : τ}
    (hr : related left right) :
    transcript perform steps left = transcript other steps right ∧
      related (afterAll perform steps left) (afterAll other steps right) := by
  induction steps generalizing left right with
  | nil => exact ⟨rfl, hr⟩
  | cons step rest ih =>
    obtain ⟨hfirst, hrest⟩ := List.forall_mem_cons.mp h
    obtain ⟨hanswer, hafter⟩ := hfirst left right hr
    obtain ⟨htranscript, hrelated⟩ := ih hrest hafter
    rw [transcript, transcript, hanswer, htranscript]
    exact ⟨rfl, hrelated⟩

/-- Let a run be made on related states, where some of its steps are made on both sides and are in
step, and the others are made on one side only and keep the states related. Then the steps made on
both sides are answered alike, and the states left are related. -/
theorem transcript_of_image {related : σ → τ → Prop} {perform : κ → Task ε σ α}
    {other : μ → Task ε τ α} {image? : κ → Option μ} {steps : List κ}
    (both : ∀ step ∈ steps, ∀ image, image? step = some image →
      InStep related (perform step) (other image))
    (alone : ∀ step ∈ steps, image? step = none → ∀ left right, related left right →
      related ((perform step).after left) right)
    {left : σ} {right : τ} (h : related left right) :
    (transcript perform steps left).filterMap
          (fun entry => (image? entry.1).map fun image => (image, entry.2)) =
        transcript other (steps.filterMap image?) right ∧
      related (afterAll perform steps left) (afterAll other (steps.filterMap image?) right) := by
  induction steps generalizing left right with
  | nil => exact ⟨rfl, h⟩
  | cons step rest ih =>
    obtain ⟨hboth, hbothRest⟩ := List.forall_mem_cons.mp both
    obtain ⟨halone, haloneRest⟩ := List.forall_mem_cons.mp alone
    cases hi : image? step with
    | none =>
      have hrest := ih hbothRest haloneRest (halone hi left right h)
      rw [List.filterMap_cons_none hi, transcript, List.filterMap_cons_none (by rw [hi]; rfl)]
      exact hrest
    | some image =>
      obtain ⟨hanswer, hafter⟩ := hboth image hi left right h
      obtain ⟨htranscript, hrelated⟩ := ih hbothRest haloneRest hafter
      rw [List.filterMap_cons_some hi, transcript, transcript,
        List.filterMap_cons_some (by rw [hi]; rfl), htranscript, hanswer]
      exact ⟨rfl, hrelated⟩

end Task

section Changes

variable {ω χ : Type} [FileHost ω] [FileHost χ] {related : ω → χ → Prop}

/-- Reading and writing a file are in step on two hosts. -/
structure FileInStep (related : ω → χ → Prop) (path : Path) : Prop where
  /-- Reading is. -/
  read : Task.InStep related (FileHost.read path : Task ChangeError ω String) (FileHost.read path)
  /-- Writing is. -/
  write (content : String) :
    Task.InStep related (FileHost.write path content : Task ChangeError ω Unit)
      (FileHost.write path content)

/-- Hosts in step on a file stay so when it is edited. -/
theorem Edit.inStep_apply {path : Path} (h : FileInStep related path) (edit : Edit) :
    Task.InStep related (edit.apply path) (edit.apply path) := by
  rw [Edit.apply_eq, Edit.apply_eq]
  apply Task.inStep_bind h.read
  intro content
  cases edit.revise path content with
  | ok revised => exact h.write revised
  | error error => exact Task.inStep_throw related error

/-- Hosts in step on the file of a leaf stay so when it is applied. -/
theorem Leaf.inStep_apply {leaf : Leaf} (h : ∀ path, leaf.path? = some path →
    FileInStep related path) : Task.InStep related leaf.apply leaf.apply := by
  obtain ⟨path?, order, edit?⟩ := leaf
  cases edit? with
  | none => exact Task.inStep_pure related ()
  | some edit =>
    cases path? with
    | none => exact Task.inStep_throw related _
    | some path => exact Edit.inStep_apply (h path rfl) edit

/-- Hosts in step on the files of leaves stay so when they are applied. -/
theorem Leaf.inStep_applyAll {leaves : List Leaf}
    (h : ∀ leaf ∈ leaves, ∀ path, leaf.path? = some path → FileInStep related path) :
    Task.InStep related (Leaf.applyAll leaves) (Leaf.applyAll leaves) := by
  induction leaves with
  | nil => exact Task.inStep_pure related ()
  | cons leaf rest ih =>
    obtain ⟨hfirst, hrest⟩ := List.forall_mem_cons.mp h
    exact Task.inStep_bind (Leaf.inStep_apply hfirst) fun _ => ih hrest

/-- The spellings under which a change reads and writes its file. -/
def Change.spellings (change : Change) : List Path :=
  match change.foreign? with
  | some _ => []
  | none => change.leaves.filterMap (·.path?)

/-- A change is in step where reading and writing its file are. -/
theorem Change.inStep_apply {change : Change}
    (h : ∀ path ∈ change.spellings, FileInStep related path) :
    Task.InStep related change.apply change.apply := by
  unfold Change.apply
  unfold Change.spellings at h
  cases hf : change.foreign? with
  | some pair => exact Task.inStep_throw related _
  | none =>
    rw [hf] at h
    apply Leaf.inStep_applyAll
    intro leaf hm path hp
    exact h path (List.mem_filterMap.mpr ⟨leaf, hm, hp⟩)

/-- Hosts in step on the files of changes stay so when they are applied. -/
theorem Change.inStep_applyAll {changes : List Change}
    (h : ∀ change ∈ changes, ∀ path ∈ change.spellings, FileInStep related path) :
    Task.InStep related (Change.applyAll changes) (Change.applyAll changes) := by
  induction changes with
  | nil => exact Task.inStep_pure related ()
  | cons change rest ih =>
    obtain ⟨hfirst, hrest⟩ := List.forall_mem_cons.mp h
    exact Task.inStep_bind (Change.inStep_apply hfirst) fun _ => ih hrest

end Changes

end Scaffold
