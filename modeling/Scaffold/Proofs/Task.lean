import Scaffold.Host

/-!
# Tasks and what they leave

A task leaves a state whether it succeeds or fails. Three ways of reasoning about that state are
set up here: a task that keeps a property of it, a task that ensures one thing when it succeeds and
another when it fails, and a task that looks, through a view of its state, like a task on something
simpler.
-/

namespace Scaffold

variable {ε σ τ α γ : Type}

namespace Task

/-- The state that a task leaves, also when it fails. -/
def after (task : Task ε σ α) (state : σ) : σ :=
  match task state with
  | .ok _ left => left
  | .error _ left => left

/-- Whether a task succeeds on a state. -/
def succeeds (task : Task ε σ α) (state : σ) : Bool :=
  match task state with
  | .ok _ _ => true
  | .error _ _ => false

theorem after_of_ok {task : Task ε σ α} {state left : σ} {value : α}
    (h : task state = .ok value left) : task.after state = left := by
  simp only [after, h]

theorem after_of_error {task : Task ε σ α} {state left : σ} {error : ε}
    (h : task state = .error error left) : task.after state = left := by
  simp only [after, h]

/-- A task succeeds if it gives a value. -/
theorem succeeds_iff {task : Task ε σ α} {state : σ} :
    task.succeeds state = true ↔ ∃ value left, task state = .ok value left := by
  unfold succeeds
  cases h : task state with
  | ok value left => simp
  | error error left => simp

/-- The second task goes on where the first one succeeds. -/
theorem bind_apply (task : Task ε σ α) (next : α → Task ε σ γ) (state : σ) :
    (task >>= next) state =
      match task state with
      | .ok value left => next value left
      | .error error left => .error error left := rfl

theorem pure_apply (value : α) (state : σ) : (pure value : Task ε σ α) state = .ok value state := rfl

theorem get_bind_apply (next : σ → Task ε σ γ) (state : σ) :
    ((get : Task ε σ σ) >>= next) state = next state state := rfl

/-- Behind a success, the second task goes on. -/
theorem bind_of_ok {task : Task ε σ α} {next : α → Task ε σ γ} {state left : σ} {value : α}
    (h : task state = .ok value left) : (task >>= next) state = next value left := by
  simp only [bind_apply, h]

/-- Behind a failure, the second task is not reached. -/
theorem bind_of_error {task : Task ε σ α} {next : α → Task ε σ γ} {state left : σ} {error : ε}
    (h : task state = .error error left) : (task >>= next) state = .error error left := by
  simp only [bind_apply, h]

theorem map_of_ok {task : Task ε σ α} {state left : σ} {value : α} (f : α → γ)
    (h : task state = .ok value left) : (f <$> task) state = .ok (f value) left := by
  change (match task state with
    | .ok value left => EStateM.Result.ok (f value) left
    | .error error left => .error error left) = _
  rw [h]

theorem map_of_error {task : Task ε σ α} {state left : σ} {error : ε} (f : α → γ)
    (h : task state = .error error left) : (f <$> task) state = .error error left := by
  change (match task state with
    | .ok value left => EStateM.Result.ok (f value) left
    | .error error left => .error error left) = _
  rw [h]

/-- A task keeps a property of its state, whether it succeeds or fails. -/
def Keeps (kept : σ → Prop) (task : Task ε σ α) : Prop :=
  ∀ state, kept state → kept (task.after state)

/-- What is kept holds behind a success. -/
theorem Keeps.of_ok {kept : σ → Prop} {task : Task ε σ α} (h : Keeps kept task) {state left : σ}
    {value : α} (hr : task state = .ok value left) (hk : kept state) : kept left := by
  have hleft := h state hk
  rw [after_of_ok hr] at hleft
  exact hleft

theorem Keeps.of_error {kept : σ → Prop} {task : Task ε σ α} (h : Keeps kept task)
    {state left : σ} {error : ε} (hr : task state = .error error left) (hk : kept state) :
    kept left := by
  have hleft := h state hk
  rw [after_of_error hr] at hleft
  exact hleft

theorem keeps_pure (kept : σ → Prop) (value : α) : Keeps kept (pure value : Task ε σ α) :=
  fun _ h => h

theorem keeps_throw (kept : σ → Prop) (error : ε) : Keeps kept (throw error : Task ε σ α) :=
  fun _ h => h

/-- Tasks one after the other keep what each of them keeps. -/
theorem keeps_bind {kept : σ → Prop} {task : Task ε σ α} {next : α → Task ε σ γ}
    (first : Keeps kept task) (rest : ∀ value, Keeps kept (next value)) :
    Keeps kept (task >>= next) := by
  intro state h
  cases hr : task state with
  | ok value left =>
    have hrest := rest value left (first.of_ok hr h)
    simpa only [after, bind_of_ok hr] using hrest
  | error error left =>
    rw [after_of_error (bind_of_error hr)]
    exact first.of_error hr h

/-- What is made of the value does not matter to what is kept. -/
theorem keeps_map {kept : σ → Prop} {task : Task ε σ α} (f : α → γ) (h : Keeps kept task) :
    Keeps kept (f <$> task) := by
  rw [map_eq_pure_bind]
  exact keeps_bind h fun value => keeps_pure kept (f value)

/-- From a state with the first property, a task succeeds with the second one or fails with the
third one. -/
def Ensures (given : σ → Prop) (task : Task ε σ α) (done : α → σ → Prop)
    (failed : ε → σ → Prop) : Prop :=
  ∀ state, given state →
    match task state with
    | .ok value left => done value left
    | .error error left => failed error left

section Ensuring

variable {given : σ → Prop} {task : Task ε σ α} {done : α → σ → Prop} {failed : ε → σ → Prop}

/-- What a task ensures of its successes holds of each of them. -/
theorem Ensures.of_ok (h : Ensures given task done failed) {state left : σ} {value : α}
    (hr : task state = .ok value left) (hg : given state) : done value left := by
  have hleft := h state hg
  rw [hr] at hleft
  exact hleft

theorem Ensures.of_error (h : Ensures given task done failed) {state left : σ} {error : ε}
    (hr : task state = .error error left) (hg : given state) : failed error left := by
  have hleft := h state hg
  rw [hr] at hleft
  exact hleft

theorem ensures_pure {value : α} (h : ∀ state, given state → done value state) :
    Ensures given (pure value : Task ε σ α) done failed := h

/-- Less is ensured from more. -/
theorem Ensures.imp {given' : σ → Prop} {done' : α → σ → Prop} {failed' : ε → σ → Prop}
    (h : Ensures given task done failed) (hgiven : ∀ state, given' state → given state)
    (hdone : ∀ value left, done value left → done' value left)
    (hfailed : ∀ error left, failed error left → failed' error left) :
    Ensures given' task done' failed' := by
  intro state hg
  cases hr : task state with
  | ok value left => exact hdone value left (h.of_ok hr (hgiven state hg))
  | error error left => exact hfailed error left (h.of_error hr (hgiven state hg))

/-- More may be given. -/
theorem Ensures.of_given {given' : σ → Prop} (h : Ensures given task done failed)
    (hgiven : ∀ state, given' state → given state) : Ensures given' task done failed :=
  h.imp hgiven (fun _ _ hd => hd) fun _ _ hf => hf

/-- Less may be said of what a task leaves. -/
theorem Ensures.weaken {done' : α → σ → Prop} {failed' : ε → σ → Prop}
    (h : Ensures given task done failed)
    (hdone : ∀ value left, done value left → done' value left)
    (hfailed : ∀ error left, failed error left → failed' error left) :
    Ensures given task done' failed' :=
  h.imp (fun _ hg => hg) hdone hfailed

/-- Less may be said of what a task leaves that fails. -/
theorem Ensures.weaken_failed {failed' : ε → σ → Prop} (h : Ensures given task done failed)
    (hfailed : ∀ error left, failed error left → failed' error left) :
    Ensures given task done failed' :=
  h.weaken (fun _ _ hd => hd) hfailed

/-- The first task ensures what the rest starts from; any of them may fail. -/
theorem ensures_bind {next : α → Task ε σ γ} {between : α → σ → Prop} {done' : γ → σ → Prop}
    (first : Ensures given task between failed)
    (rest : ∀ value, Ensures (between value) (next value) done' failed) :
    Ensures given (task >>= next) done' failed := by
  intro state hg
  cases hr : task state with
  | ok value left =>
    rw [bind_of_ok hr]
    exact rest value left (first.of_ok hr hg)
  | error error left =>
    rw [bind_of_error hr]
    exact first.of_error hr hg

/-- A task that leaves the state as it is ensures what is given. -/
theorem ensures_of_after (h : ∀ state, task.after state = state) :
    Ensures given task (fun _ => given) (fun _ => given) := by
  intro state hg
  have hleft := h state
  cases hr : task state with
  | ok value left =>
    rw [after_of_ok hr] at hleft
    rw [hleft]
    exact hg
  | error error left =>
    rw [after_of_error hr] at hleft
    rw [hleft]
    exact hg

/-- Looking at the state changes nothing. -/
theorem ensures_get_bind {next : σ → Task ε σ α}
    (h : ∀ state, Ensures (fun left => left = state ∧ given left) (next state) done failed) :
    Ensures given ((get : Task ε σ σ) >>= next) done failed :=
  fun state hg => h state state ⟨rfl, hg⟩

/-- What a task ensures of the state does not depend on what is made of its value. -/
theorem ensures_of_map {f : α → γ} {done : σ → Prop}
    (h : Ensures given (f <$> task) (fun _ => done) failed) :
    Ensures given task (fun _ => done) failed := by
  intro state hg
  cases hr : task state with
  | ok value left => exact h.of_ok (map_of_ok f hr) hg
  | error error left => exact h.of_error (map_of_error f hr) hg

/-- What is ensured both of success and of failure holds of the state left. -/
theorem Ensures.after {kept : σ → Prop}
    (h : Ensures given task (fun _ => kept) (fun _ => kept)) {state : σ}
    (hg : given state) :
    kept (task.after state) := by
  cases hr : task state with
  | ok value left =>
    rw [after_of_ok hr]
    exact h.of_ok hr hg
  | error error left =>
    rw [after_of_error hr]
    exact h.of_error hr hg

end Ensuring

/-- A result with its state seen through a view. -/
def seen (view : σ → τ) : EStateM.Result ε σ α → EStateM.Result ε τ α
  | .ok value left => .ok value (view left)
  | .error error left => .error error (view left)

/-- A result seen through a view leaves the state seen through it. -/
theorem after_of_seen {view : σ → τ} {task : Task ε σ α} {image : Task ε τ α} {state : σ}
    {other : τ} (h : image other = Task.seen view (task state)) :
    image.after other = view (task.after state) := by
  cases hr : task state with
  | ok value left =>
    rw [hr] at h
    rw [after_of_ok hr, after_of_ok h]
  | error error left =>
    rw [hr] at h
    rw [after_of_error hr, after_of_error h]

/-- Seen through the view, a task does exactly what its image does. -/
def Mirrors (view : σ → τ) (task : Task ε σ α) (image : Task ε τ α) : Prop :=
  ∀ state, seen view (task state) = image (view state)

theorem mirrors_pure (view : σ → τ) (value : α) :
    Mirrors view (pure value : Task ε σ α) (pure value) := fun _ => rfl

theorem mirrors_throw (view : σ → τ) (error : ε) :
    Mirrors view (throw error : Task ε σ α) (throw error) := fun _ => rfl

/-- Tasks one after the other mirror their images one after the other. -/
theorem mirrors_bind {view : σ → τ} {task : Task ε σ α} {image : Task ε τ α}
    {next : α → Task ε σ γ} {nextImage : α → Task ε τ γ} (first : Mirrors view task image)
    (rest : ∀ value, Mirrors view (next value) (nextImage value)) :
    Mirrors view (task >>= next) (image >>= nextImage) := by
  intro state
  have hfirst := first state
  cases hr : task state with
  | ok value left =>
    rw [hr] at hfirst
    rw [bind_of_ok hr, bind_of_ok hfirst.symm]
    exact rest value left
  | error error left =>
    rw [hr] at hfirst
    rw [bind_of_error hr, bind_of_error hfirst.symm]
    rfl

/-- What is made of the value does not matter to the view. -/
theorem mirrors_map {view : σ → τ} {task : Task ε σ α} {image : Task ε τ α} (f : α → γ)
    (h : Mirrors view task image) : Mirrors view (f <$> task) (f <$> image) := by
  intro state
  have hstate := h state
  cases hr : task state with
  | ok value left =>
    rw [hr] at hstate
    rw [map_of_ok f hr, map_of_ok f hstate.symm]
    rfl
  | error error left =>
    rw [hr] at hstate
    rw [map_of_error f hr, map_of_error f hstate.symm]
    rfl

/-- Tasks that look at their states mirror each other if they do so for each state seen. -/
theorem mirrors_get_bind {view : σ → τ} {next : σ → Task ε σ α} {image : τ → Task ε τ α}
    (h : ∀ state, Mirrors view (next state) (image (view state))) :
    Mirrors view ((get : Task ε σ σ) >>= next) ((get : Task ε τ τ) >>= image) :=
  fun state => h state state

/-- Views are looked through one after the other. -/
theorem Mirrors.comp {υ : Type} {view : σ → τ} {further : τ → υ} {task : Task ε σ α}
    {image : Task ε τ α} {last : Task ε υ α} (near : Mirrors view task image)
    (far : Mirrors further image last) : Mirrors (further ∘ view) task last := by
  intro state
  rw [Function.comp_apply, ← far (view state), ← near state]
  cases task state <;> rfl

/-- A success is mirrored by a success with the same value. -/
theorem Mirrors.of_ok {view : σ → τ} {task : Task ε σ α} {image : Task ε τ α}
    (h : Mirrors view task image) {state left : σ} {value : α} (hr : task state = .ok value left) :
    image (view state) = .ok value (view left) := by
  rw [← h state, hr]
  rfl

theorem Mirrors.of_error {view : σ → τ} {task : Task ε σ α} {image : Task ε τ α}
    (h : Mirrors view task image) {state left : σ} {error : ε}
    (hr : task state = .error error left) : image (view state) = .error error (view left) := by
  rw [← h state, hr]
  rfl

/-- A task succeeds exactly where its image does. -/
theorem Mirrors.succeeds_eq {view : σ → τ} {task : Task ε σ α} {image : Task ε τ α}
    (h : Mirrors view task image) (state : σ) :
    image.succeeds (view state) = task.succeeds state := by
  cases hr : task state with
  | ok value left => simp only [succeeds, hr, h.of_ok hr]
  | error error left => simp only [succeeds, hr, h.of_error hr]

end Task

end Scaffold
