import Scaffold.Proofs.Host.Calls
import Scaffold.Proofs.Host.Heights
import Scaffold.Proofs.PathOrder

/-!
# A layer as a view with snapshots

What a single layer shows of files in memory, said without layers: a path that was read, written
or created through it is shown as it was kept then, also if it was absent, and every other path as
the files have it now. The layer and this view answer every interleaving of calls alike, whether
they are made through the layer or on the files under it.
-/

namespace Scaffold

/-- Files in memory seen with snapshots of some paths. -/
structure Snapshots where
  /-- The files. -/
  base : MemoryHost
  /-- What is kept of a path, if anything is: its content, or that it is absent. -/
  kept : List PathComponent → Option (Option String)

namespace Snapshots

/-- The files as they are. -/
def fresh (host : MemoryHost) : Snapshots := ⟨host, fun _ => none⟩

/-- What is seen at a path: what is kept of it, or else what the files have there now. -/
def seen (view : Snapshots) (path : Path) : Option String :=
  (view.kept path.components).getD (view.base.content? path)

/-- Keep something of a path. -/
def keep (view : Snapshots) (path : Path) (content : Option String) : Snapshots :=
  { view with kept := Function.update view.kept path.components (some content) }

/-- A path that is read or written is kept, and so is one that is created. -/
instance : FileHost Snapshots where
  read path := fun view => .ok ((view.seen path).getD "") (view.keep path (view.seen path))
  write path content := fun view => .ok () (view.keep path (some content))
  has path view := (view.seen path).isSome
  ensureFile path := fun view =>
    .ok () (if (view.seen path).isSome then view else view.keep path (some ""))

/-- Run a task on the files themselves. -/
def onBase {ε α : Type} (task : Task ε MemoryHost α) : Task ε Snapshots α := fun view =>
  match task view.base with
  | .ok value base => .ok value { view with base := base }
  | .error error base => .error error { view with base := base }

/-- A step at height zero is made on the files, any other one through the view. -/
def task (step : HostStep) : Task ChangeError Snapshots HostAnswer :=
  if step.level = 0 then onBase step.call.task else step.call.task

/-- What is kept is not replaced. -/
theorem keep_of_kept {view : Snapshots} {path : Path} {content : Option String}
    (h : view.kept path.components = some content) : view.keep path content = view := by
  rw [keep, ← h, Function.update_eq_self]

/-- Nothing that is done through the view reaches the files. -/
theorem keepsHost_base (host : MemoryHost) :
    KeepsHost fun view : Snapshots => view.base = host where
  file _ := ⟨fun _ h => h, fun _ _ h => h⟩
  ensureFile path view h := by
    change (if (view.seen path).isSome then view else view.keep path (some "")).base = host
    split
    · exact h
    · exact h

/-- A task on the base is the task itself. -/
theorem mirrors_onBase {ε α : Type} (task : Task ε MemoryHost α) :
    Task.Mirrors Snapshots.base (onBase task) task := by
  intro view
  unfold onBase
  cases task view.base <;> rfl

/-- A task on the base answers as the task does, and keeps what is kept. -/
theorem answer_onBase {ε α : Type} (task : Task ε MemoryHost α) (view : Snapshots) :
    Task.answer (onBase task) view = task.answer view.base ∧
      Task.after (onBase task) view = { view with base := task.after view.base } := by
  unfold Task.answer Task.after onBase
  cases task view.base <;> exact ⟨rfl, rfl⟩

/-- The files are left as if only the steps on them had been made. -/
theorem base_afterAll (steps : List HostStep) (host : MemoryHost) :
    (Task.afterAll task steps (fresh host)).base =
      Task.afterAll HostCall.task (steps.filterMap (HostStep.at? 0)) host := by
  have hboth : ∀ step ∈ steps, ∀ call, HostStep.at? 0 step = some call →
      Task.InStep (fun (view : Snapshots) (host : MemoryHost) => view.base = host) (task step)
        call.task := by
    intro step _ call hcall
    rw [HostStep.at?] at hcall
    split at hcall
    · next hlevel =>
      cases hcall
      rw [task, if_pos hlevel]
      exact (mirrors_onBase step.call.task).inStep
    · cases hcall
  have halone : ∀ step ∈ steps, HostStep.at? 0 step = none →
      ∀ (view : Snapshots) (host : MemoryHost), view.base = host →
        ((task step).after view).base = host := by
    intro step _ hnone view host hbase
    rw [HostStep.at?] at hnone
    split at hnone
    · cases hnone
    · next hlevel =>
      rw [task, if_neg hlevel]
      exact HostCall.keeps_task (keepsHost_base host) step.call view hbase
  exact (Task.transcript_of_image hboth halone rfl).2

end Snapshots

namespace Layered

/-- A single layer over files in memory is seen as the view. -/
def Shows (layers : Layered MemoryHost) (view : Snapshots) : Prop :=
  ∃ overlay : Overlay, layers = .covered (.ground view.base) overlay ∧
    overlay.at? = view.kept ∧ overlay.Distinct

/-- A new layer shows a fresh view. -/
theorem shows_shadow (host : MemoryHost) : Shows (shadow host) (.fresh host) :=
  ⟨PathMap.empty, rfl, rfl, List.Pairwise.nil⟩

/-- What the layer takes over of a path the view keeps. -/
theorem shows_insert {overlay : Overlay} {view : Snapshots} (same : overlay.at? = view.kept)
    (distinct : overlay.Distinct) (path : Path) (content : Option String) :
    Shows (.covered (.ground view.base) (overlay.insert path content)) (view.keep path content) :=
  ⟨_, rfl, by rw [PathMap.at?_insert, same]; rfl, PathMap.distinct_insert distinct path content⟩

/-- A layer has a file if the view sees one. -/
theorem has_of_shows {overlay : Overlay} {view : Snapshots} (same : overlay.at? = view.kept)
    (path : Path) :
    (Layered.covered (.ground view.base) overlay).has path = (view.seen path).isSome := by
  rw [has, PathMap.find?_eq_at?, same, Snapshots.seen]
  cases view.kept path.components <;> rfl

/-- The ground has the files of its host. -/
theorem has_ground (host : MemoryHost) (path : Path) :
    (Layered.ground host).has path = (host.content? path).isSome := rfl

theorem read_ground (host : MemoryHost) (path : Path) :
    Layered.read path (.ground host) = .ok ((host.content? path).getD "") (.ground host) := rfl

/-- Reading shows what was kept, or keeps what the files have. -/
theorem inStep_read_shows (path : Path) :
    Task.InStep Shows (FileHost.read path : Task ChangeError (Layered MemoryHost) String)
      (FileHost.read path) := by
  rintro layers view ⟨overlay, rfl, hsame, hdistinct⟩
  have hread : (FileHost.read path : Task ChangeError Snapshots String) view =
      .ok ((view.seen path).getD "") (view.keep path (view.seen path)) := rfl
  rw [Task.answer_of_ok hread, Task.after_of_ok hread]
  cases hk : view.kept path.components with
  | some content =>
    have hseen : view.seen path = content := by rw [Snapshots.seen, hk, Option.getD_some]
    have hlayer : (FileHost.read path : Task ChangeError (Layered MemoryHost) String)
        (.covered (.ground view.base) overlay) =
          .ok (content.getD "") (.covered (.ground view.base) overlay) := by
      change Layered.read path _ = _
      rw [Layered.read, PathMap.find?_eq_at?, hsame, hk]
    rw [Task.answer_of_ok hlayer, Task.after_of_ok hlayer, hseen, Snapshots.keep_of_kept hk]
    exact ⟨rfl, overlay, rfl, hsame, hdistinct⟩
  | none =>
    have hseen : view.seen path = view.base.content? path := by
      rw [Snapshots.seen, hk, Option.getD_none]
    have hlayer : (FileHost.read path : Task ChangeError (Layered MemoryHost) String)
        (.covered (.ground view.base) overlay) =
          .ok ((view.base.content? path).getD "")
            (.covered (.ground view.base) (overlay.insert path (view.base.content? path))) := by
      change Layered.read path _ = _
      rw [Layered.read, PathMap.find?_eq_at?, hsame, hk]
      simp only [has_ground, read_ground]
      obtain hc | ⟨content, hc⟩ := Option.eq_none_or_eq_some (view.base.content? path)
      · simp only [hc, Option.isSome_none, Bool.false_eq_true, if_false, Option.getD_none]
      · simp only [hc, Option.isSome_some, if_true, Option.getD_some]
    rw [Task.answer_of_ok hlayer, Task.after_of_ok hlayer, hseen]
    exact ⟨rfl, shows_insert hsame hdistinct path _⟩

/-- A single layer and the view are in step over every file. -/
theorem hostInStep_shows : HostInStep Shows where
  file path := by
    refine ⟨inStep_read_shows path, fun content => ?_⟩
    rintro layers view ⟨overlay, rfl, hsame, hdistinct⟩
    exact ⟨rfl, shows_insert hsame hdistinct path (some content)⟩
  has path layers view h := by
    obtain ⟨overlay, rfl, hsame, _⟩ := h
    exact has_of_shows hsame path
  ensureFile path := by
    rintro layers view ⟨overlay, rfl, hsame, hdistinct⟩
    have hhas := has_of_shows hsame path
    have hlayer : (FileHost.ensureFile path : Task ChangeError (Layered MemoryHost) Unit)
        (.covered (.ground view.base) overlay) =
          .ok () (if (view.seen path).isSome then .covered (.ground view.base) overlay
            else .covered (.ground view.base) (overlay.insert path (some ""))) := by
      change Layered.ensureFile path _ = _
      rw [Layered.ensureFile, hhas]
      split <;> rfl
    have hview : (FileHost.ensureFile path : Task ChangeError Snapshots Unit) view =
        .ok () (if (view.seen path).isSome then view else view.keep path (some "")) := rfl
    rw [Task.answer_of_ok hlayer, Task.after_of_ok hlayer, Task.answer_of_ok hview,
      Task.after_of_ok hview]
    refine ⟨rfl, ?_⟩
    split
    · exact ⟨overlay, rfl, hsame, hdistinct⟩
    · exact shows_insert hsame hdistinct path (some "")

/-- A host is in step with the ground of a stack that it is. -/
theorem hostInStep_ground {ω : Type} [FileHost ω] :
    HostInStep fun (host : ω) (layers : Layered ω) => .ground host = layers where
  file path := by
    have hread : Task.Mirrors ground (FileHost.read path : Task ChangeError ω String)
        (FileHost.read path) := by
      intro host
      change _ = Layered.read path (.ground host)
      rw [Layered.read]
      cases (FileHost.read path : Task ChangeError ω String) host <;> rfl
    have hwrite : ∀ content, Task.Mirrors ground
        (FileHost.write path content : Task ChangeError ω Unit) (FileHost.write path content) := by
      intro content host
      change _ = Layered.write path content (.ground host)
      rw [Layered.write]
      cases (FileHost.write path content : Task ChangeError ω Unit) host <;> rfl
    exact ⟨hread.inStep, fun content => (hwrite content).inStep⟩
  has path host layers h := by
    subst h
    rfl
  ensureFile path := by
    have hensure : Task.Mirrors ground (FileHost.ensureFile path : Task ChangeError ω Unit)
        (FileHost.ensureFile path) := by
      intro host
      change _ = Layered.ensureFile path (.ground host)
      rw [Layered.ensureFile]
      cases (FileHost.ensureFile path : Task ChangeError ω Unit) host <;> rfl
    exact hensure.inStep

/-- A step on a single layer, or on the files under it, is in step with the view. -/
theorem inStep_task_shows (step : HostStep) :
    Task.InStep Shows (step.task : Task ChangeError (Layered MemoryHost) HostAnswer)
      (Snapshots.task step) := by
  rintro layers view ⟨overlay, rfl, hsame, hdistinct⟩
  rw [HostStep.task, Snapshots.task]
  by_cases hlevel : step.level = 0
  · have hle : step.level ≤ (Layered.ground view.base).height := Nat.le_of_eq hlevel
    obtain ⟨hanswer, hafter⟩ := answer_atHeight_covered hle
      (step.call.task : Task ChangeError (Layered MemoryHost) HostAnswer) overlay
    obtain ⟨hbase, hleft⟩ := Snapshots.answer_onBase step.call.task view
    obtain ⟨hground, hunder⟩ := HostCall.inStep_task hostInStep_ground step.call view.base _ rfl
    rw [hanswer, hafter, if_pos hlevel, hbase, hleft]
    refine ⟨hground.symm, overlay, ?_, hsame, hdistinct⟩
    exact congrArg (covered · overlay) hunder.symm
  · have htop : (Layered.covered (.ground view.base) overlay).height ≤ step.level :=
      Nat.one_le_iff_ne_zero.mpr hlevel
    obtain ⟨hanswer, hafter⟩ := answer_atHeight_top htop
      (step.call.task : Task ChangeError (Layered MemoryHost) HostAnswer)
    rw [hanswer, hafter, if_neg hlevel]
    exact HostCall.inStep_task hostInStep_shows step.call _ _ ⟨overlay, rfl, hsame, hdistinct⟩

/-- The paths that a layer lists are those of which the view keeps a content, each once and in
order. -/
theorem shadowed_of_shows {layers : Layered MemoryHost} {view : Snapshots}
    (h : Shows layers view) :
    layers.shadowed.Pairwise (fun left right => left.compare right = .lt) ∧
      ∀ components, (∃ path ∈ layers.shadowed, path.components = components) ↔
        ∃ content, view.kept components = some (some content) := by
  obtain ⟨overlay, rfl, hsame, hdistinct⟩ := h
  have hmem : ∀ path, path ∈ (covered (.ground view.base) overlay).shadowed ↔
      ∃ content, (path, some content) ∈ overlay.entries := by
    intro path
    rw [shadowed, (List.mergeSort_perm _ _).mem_iff, List.mem_map]
    constructor
    · rintro ⟨⟨key, content?⟩, hentry, rfl⟩
      obtain ⟨hentry, hsome⟩ := List.mem_filter.mp hentry
      obtain ⟨content, rfl⟩ := Option.isSome_iff_exists.mp hsome
      exact ⟨content, hentry⟩
    · rintro ⟨content, hentry⟩
      exact ⟨(path, some content), List.mem_filter.mpr ⟨hentry, rfl⟩, rfl⟩
  refine ⟨Path.pairwise_mergeSort ?_, fun components => ?_⟩
  · have hsub := @List.filter_sublist _ (fun entry => entry.2.isSome) overlay.entries
    exact ((hsub.map Prod.fst).map Path.components).nodup hdistinct
  · simp only [hmem, ← hsame]
    constructor
    · rintro ⟨path, ⟨content, hentry⟩, rfl⟩
      exact ⟨content, PathMap.at?_of_mem hdistinct hentry⟩
    · rintro ⟨content, hkept⟩
      obtain ⟨key, hentry, hkey⟩ := PathMap.exists_mem_of_at? hkept
      exact ⟨key, ⟨content, hentry⟩, hkey⟩

/-- A layer over files in memory answers like the view, whatever is done in any order through it
and on the files under it. -/
theorem transcript_shadow (host : MemoryHost) (steps : List HostStep) :
    Task.transcript HostStep.task steps (shadow host) =
        Task.transcript Snapshots.task steps (.fresh host) ∧
      Shows (Task.afterAll HostStep.task steps (shadow host))
        (Task.afterAll Snapshots.task steps (.fresh host)) :=
  Task.transcript_of_inStep (fun step _ => inStep_task_shows step) (shows_shadow host)

/-- The files under a layer are left as if nothing had been done through it. -/
theorem host_afterAll_shadow (host : MemoryHost) (steps : List HostStep) :
    (Task.afterAll HostStep.task steps (shadow host)).host =
      Task.afterAll HostCall.task (steps.filterMap (HostStep.at? 0)) host := by
  obtain ⟨overlay, hleft, _⟩ := (transcript_shadow host steps).2
  rw [hleft, ← Snapshots.base_afterAll]
  rfl

end Layered

end Scaffold
