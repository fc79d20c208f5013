import Scaffold.Proofs.Host.Snapshots

/-!
# Stacks of layers

In a stack of layers, what is done at one height is not seen at lower ones, although reading makes
every layer on the way take over what it saw. A layer is a copy of what it shows: as long as at
lower heights files are only looked at, it answers like files in memory that were filled with what
it showed at the start.
-/

namespace Scaffold

namespace Layered

/-- The paths under which a stack over files in memory can hold something. -/
def paths : Layered MemoryHost → List Path
  | ground host => host.files.keys
  | covered base overlay => base.paths ++ overlay.keys

/-- Whatever is in the contents is at one of the paths. -/
theorem exists_path_of_contents {layers : Layered MemoryHost} {components : List PathComponent}
    {content : String} (h : layers.contents components = some content) :
    ∃ path ∈ layers.paths, path.components = components := by
  induction layers generalizing content with
  | ground host =>
    exact (PathMap.at?_isSome host.files components).mp (Option.isSome_of_eq_some h)
  | covered base overlay ih =>
    rw [contents_covered] at h
    cases ho : overlay.at? components with
    | some kept =>
      obtain ⟨key, hm, hc⟩ :=
        (PathMap.at?_isSome overlay components).mp (Option.isSome_of_eq_some ho)
      exact ⟨key, List.mem_append_right _ hm, hc⟩
    | none =>
      rw [ho] at h
      obtain ⟨path, hm, hc⟩ := ih h
      exact ⟨path, List.mem_append_left _ hm, hc⟩

/-- Files in memory filled with what a stack shows. -/
def copy (layers : Layered MemoryHost) : MemoryHost :=
  .withFiles (layers.paths.filterMap fun path =>
    (layers.contents path.components).map fun content => (path, content))

/-- A copy holds what is shown. -/
theorem contents_copy (layers : Layered MemoryHost) :
    ContentHost.contents layers.copy = layers.contents := by
  funext components
  have hpair : ∀ pair ∈ layers.paths.filterMap fun path =>
      (layers.contents path.components).map fun content => (path, content),
        layers.contents pair.1.components = some pair.2 := by
    intro pair hm
    obtain ⟨path, _, hpath⟩ := List.mem_filterMap.mp hm
    obtain ⟨content, hcontent, rfl⟩ := Option.map_eq_some_iff.mp hpath
    exact hcontent
  change (PathMap.ofList _).at? components = _
  rw [PathMap.at?_ofList hpair]
  split
  · rfl
  · next hnone =>
    by_contra hsome
    obtain ⟨content, hcontent⟩ := Option.ne_none_iff_exists'.mp (Ne.symm hsome)
    obtain ⟨path, hm, rfl⟩ := exists_path_of_contents hcontent
    refine hnone ⟨(path, content), List.mem_filterMap.mpr ⟨path, hm, ?_⟩, rfl⟩
    rw [hcontent]
    rfl

section Showing

variable {ω : Type} [FileHost ω]

/-- Reading a covered path is answered by the layer or by what lies under it. -/
theorem after_read_covered (base : Layered ω) (overlay : Overlay) (path : Path) :
    ∃ left taken, Task.after (Layered.read path) (covered base overlay) = covered left taken ∧
      (left = base ∨ left = Task.after (Layered.read path) base) := by
  cases ho : overlay.find? path with
  | some content =>
    have hread : Layered.read path (covered base overlay) =
        .ok (content.getD "") (covered base overlay) := by
      rw [Layered.read, ho]
    exact ⟨_, _, Task.after_of_ok hread, .inl rfl⟩
  | none =>
    cases hb : base.has path with
    | false =>
      have hread : Layered.read path (covered base overlay) =
          .ok "" (covered base (overlay.insert path none)) := by
        simp only [Layered.read, ho, hb, Bool.false_eq_true, if_false]
      exact ⟨_, _, Task.after_of_ok hread, .inl rfl⟩
    | true =>
      cases hr : Layered.read path base with
      | ok content left =>
        have hread : Layered.read path (covered base overlay) =
            .ok content (covered left (overlay.insert path (some content))) := by
          simp only [Layered.read, ho, hb, if_true, hr]
        exact ⟨_, _, Task.after_of_ok hread, .inr (Task.after_of_ok hr).symm⟩
      | error error left =>
        have hread : Layered.read path (covered base overlay) =
            .error error (covered left overlay) := by
          simp only [Layered.read, ho, hb, if_true, hr]
        exact ⟨_, _, Task.after_of_error hread, .inr (Task.after_of_error hr).symm⟩

variable [ContentHost ω]

/-- Reading changes nothing of what a stack shows. -/
theorem contents_after_read (path : Path) (layers : Layered ω) :
    (Task.after (Layered.read path) layers).contents = layers.contents :=
  ((mirrors_read path).answer_after layers).2.symm

/-- Parts that show the same answer every call alike. -/
theorem answer_of_contents {left right : Layered ω} (h : left.contents = right.contents)
    (call : HostCall) : (call.task : Task ChangeError (Layered ω) HostAnswer).answer left =
      (call.task : Task ChangeError (Layered ω) HostAnswer).answer right :=
  (HostCall.inStep_task ContentHost.hostInStep call left right h).1

/-- Looking at files at any height changes nothing of what a stack shows. -/
theorem contents_atHeight_of_looks {call : HostCall} (looking : call.looks = true) (level : Nat)
    (layers : Layered ω) :
    (Task.after (atHeight level call.task) layers).contents = layers.contents := by
  have hkeeps : ∀ shown : Contents, Task.Keeps (fun left : Layered ω => left.contents = shown)
      (call.task : Task ChangeError (Layered ω) HostAnswer) := fun shown =>
    HostCall.keeps_task_of_looks
      (fun path left h => (contents_after_read path left).trans h) looking
  induction layers with
  | ground host => exact hkeeps _ (ground host) rfl
  | covered base overlay ih =>
    by_cases hb : level ≤ base.height
    · rw [(answer_atHeight_covered hb _ overlay).2]
      exact contents_covered_congr ih overlay
    · have htop : (covered base overlay).height ≤ level := Nat.lt_of_not_le hb
      rw [(answer_atHeight_top htop _).2]
      exact hkeeps _ (covered base overlay) rfl

variable [QuietReads ω]

/-- Reading changes the contents of no layer. -/
theorem contents_upTo_read (path : Path) (level : Nat) (layers : Layered ω) :
    ((Task.after (Layered.read path) layers).upTo level).contents =
      (layers.upTo level).contents := by
  induction layers with
  | ground host =>
    have hheight := (host_read path (ground host)).2
    rw [upTo_of_le (Nat.le_trans (Nat.le_of_eq hheight) (Nat.zero_le _))]
    exact contents_after_read path (ground host)
  | covered base overlay ih =>
    obtain ⟨left, taken, hafter, hleft⟩ := after_read_covered base overlay path
    have hheight := (host_read path (covered base overlay)).2
    by_cases hb : level ≤ base.height
    · rw [hafter] at hheight ⊢
      have hle : level ≤ left.height := Nat.le_trans hb (Nat.le_of_eq (Nat.succ.inj hheight).symm)
      rw [upTo_covered_of_le hb, upTo_covered_of_le hle]
      obtain rfl | rfl := hleft
      · rfl
      · exact ih
    · have htop : (covered base overlay).height ≤ level := Nat.lt_of_not_le hb
      rw [upTo_of_le htop, upTo_of_le (Nat.le_trans (Nat.le_of_eq hheight) htop)]
      exact contents_after_read path (covered base overlay)

/-- Lower parts of a stack, and its height, are shown as they were. -/
structure SameBelow (origin layers : Layered ω) : Prop where
  /-- The stack is as high. -/
  height : layers.height = origin.height
  /-- Each lower part shows the same. -/
  contents (lower : Nat) (h : lower < origin.height) :
    (layers.upTo lower).contents = (origin.upTo lower).contents

omit [QuietReads ω] in
/-- Below the highest cover, nothing depends on it. -/
theorem sameBelow_covered {origin base : Layered ω} {overlay : Overlay}
    (h : SameBelow origin (covered base overlay)) (taken : Overlay) :
    SameBelow origin (covered base taken) := by
  refine ⟨h.height, fun lower hlower => ?_⟩
  have hle : lower ≤ base.height := Nat.le_of_lt_succ (Nat.lt_of_lt_of_eq hlower h.height.symm)
  rw [← h.contents lower hlower, upTo_covered_of_le hle, upTo_covered_of_le hle]

omit [QuietReads ω] in
/-- Nothing lies below the ground. -/
theorem sameBelow_ground {origin : Layered ω} {host : ω} (h : SameBelow origin (ground host))
    (left : ω) : SameBelow origin (ground left) :=
  ⟨h.height, fun lower hlower =>
    absurd (Nat.lt_of_lt_of_eq hlower h.height.symm) (Nat.not_lt_zero lower)⟩

/-- Nothing that is done at the top of a stack is shown below. -/
theorem keepsHost_sameBelow (origin : Layered ω) : KeepsHost (SameBelow origin) where
  file path := by
    refine ⟨fun layers h => ?_, fun content layers h => ?_⟩
    · have hheight := (host_read path layers).2
      refine ⟨hheight.trans h.height, fun lower hlower => ?_⟩
      exact (contents_upTo_read path lower layers).trans (h.contents lower hlower)
    · cases layers with
      | ground host =>
        obtain ⟨_, hafter⟩ := (hostInStep_ground.file path).write content host _ rfl
        rw [← hafter]
        exact sameBelow_ground h _
      | covered base overlay => exact sameBelow_covered h _
  ensureFile path := by
    intro layers h
    cases layers with
    | ground host =>
      obtain ⟨_, hafter⟩ := hostInStep_ground.ensureFile path host _ rfl
      rw [← hafter]
      exact sameBelow_ground h _
    | covered base overlay =>
      have hensure : (FileHost.ensureFile path : Task ChangeError (Layered ω) Unit)
          (covered base overlay) = .ok () (if (covered base overlay).has path then
            covered base overlay else covered base (overlay.insert path (some ""))) := by
        change Layered.ensureFile path _ = _
        rw [Layered.ensureFile]
        split <;> rfl
      rw [Task.after_of_ok hensure]
      split
      · exact h
      · exact sameBelow_covered h _

/-- A call at a height is not shown below it. -/
theorem sameBelow_after (step : HostStep) (layers : Layered ω) :
    SameBelow (layers.upTo step.level) (Task.after step.call.task (layers.upTo step.level)) :=
  HostCall.keeps_task (keepsHost_sameBelow _) step.call _ ⟨rfl, fun _ _ => rfl⟩

/-- A call at a height leaves the stack as high as it was. -/
theorem height_task (step : HostStep) (layers : Layered ω) :
    (Task.after step.task layers).height = layers.height :=
  height_atHeight (sameBelow_after step layers).height

/-- A call at a height is not shown by any lower part. -/
theorem contents_upTo_below {step : HostStep} {layers : Layered ω} {lower : Nat}
    (hlevel : lower < step.level) (hheight : lower < layers.height) :
    ((Task.after step.task layers).upTo lower).contents = (layers.upTo lower).contents := by
  have hkept := sameBelow_after step layers
  have hlower : lower < (layers.upTo step.level).height := by
    rw [height_upTo]
    exact Nat.lt_min.mpr ⟨hlevel, hheight⟩
  have hcontents := hkept.contents lower hlower
  rw [HostStep.task, upTo_atHeight_below hkept.height (Nat.le_of_lt hlevel), hcontents,
    upTo_upTo (Nat.le_of_lt hlevel)]

/-- Nor is any number of them. -/
theorem contents_upTo_afterAll {steps : List HostStep} {layers : Layered ω} {lower : Nat}
    (hlevel : ∀ step ∈ steps, lower < step.level) (hheight : lower < layers.height) :
    ((Task.afterAll HostStep.task steps layers).upTo lower).contents =
      (layers.upTo lower).contents := by
  induction steps generalizing layers with
  | nil => rfl
  | cons step rest ih =>
    obtain ⟨hfirst, hrest⟩ := List.forall_mem_cons.mp hlevel
    have hleft := Nat.lt_of_lt_of_eq hheight (height_task step layers).symm
    exact (ih hrest hleft).trans (contents_upTo_below hfirst hheight)

/-- Looking at files at a lower height is not shown by a part. -/
theorem contents_upTo_above {step : HostStep} (looking : step.call.looks = true)
    {layers : Layered ω} {higher : Nat} (hlevel : step.level ≤ higher) :
    ((Task.after step.task layers).upTo higher).contents = (layers.upTo higher).contents := by
  have hkept := sameBelow_after step layers
  rw [HostStep.task, upTo_atHeight_above hkept.height hlevel,
    contents_atHeight_of_looks looking]

/-- A part of a stack and files in memory with what it shows. -/
structure Copies (height level : Nat) (layers : Layered ω) (files : MemoryHost) : Prop where
  /-- The stack is as high as before. -/
  height : layers.height = height
  /-- The part shows the files. -/
  contents : (layers.upTo level).contents = ContentHost.contents files

/-- A call at the height of the part is in step with the files. -/
theorem inStep_copies {height level : Nat} {step : HostStep} (h : step.level = level) :
    Task.InStep (Copies height level : Layered ω → MemoryHost → Prop) step.task
      step.call.task := by
  intro layers files hcopies
  subst h
  obtain ⟨hanswer, hafter⟩ := HostCall.inStep_task ContentHost.hostInStep step.call
    (layers.upTo step.level) files hcopies.contents
  have hkept := sameBelow_after step layers
  have hpart : (Task.after step.call.task (layers.upTo step.level)).height ≤ step.level := by
    rw [hkept.height, height_upTo]
    exact Nat.min_le_left _ _
  refine ⟨?_, (height_task step layers).trans hcopies.height, ?_⟩
  · rw [HostStep.task, answer_atHeight]
    exact hanswer
  · rw [HostStep.task, upTo_atHeight_below hkept.height (Nat.le_refl _), upTo_of_le hpart]
    exact hafter

/-- A part of a stack answers like files in memory that were filled with what it showed, as long
as files are only looked at below it. -/
theorem transcript_copy {layers : Layered ω} {files : MemoryHost} {level : Nat}
    (same : (layers.upTo level).contents = ContentHost.contents files) {steps : List HostStep}
    (h : ∀ step ∈ steps, step.level ≤ layers.height ∧
      (step.level < level → step.call.looks = true)) :
    (Task.transcript HostStep.task steps layers).filterMap
        (fun entry => (entry.1.at? level).map fun call => (call, entry.2)) =
      Task.transcript HostCall.task (steps.filterMap (HostStep.at? level)) files := by
  have hboth : ∀ step ∈ steps, ∀ call, HostStep.at? level step = some call →
      Task.InStep (Copies layers.height level : Layered ω → MemoryHost → Prop) step.task
        call.task := by
    intro step _ call hcall
    rw [HostStep.at?] at hcall
    split at hcall
    · next heq =>
      cases hcall
      exact inStep_copies heq
    · cases hcall
  have halone : ∀ step ∈ steps, HostStep.at? level step = none →
      ∀ (left : Layered ω) (files : MemoryHost), Copies layers.height level left files →
        Copies layers.height level (Task.after step.task left) files := by
    intro step hm hnone left files hcopies
    obtain ⟨hexists, hlooks⟩ := h step hm
    have hne : step.level ≠ level := by
      intro heq
      rw [HostStep.at?, if_pos heq] at hnone
      cases hnone
    refine ⟨(height_task step left).trans hcopies.height, ?_⟩
    rw [← hcopies.contents]
    obtain hlt | hgt := Nat.lt_or_gt_of_ne hne
    · exact contents_upTo_above (hlooks hlt) (Nat.le_of_lt hlt)
    · have hheight : level < left.height := by
        rw [hcopies.height]
        exact Nat.lt_of_lt_of_le hgt hexists
      exact contents_upTo_below hgt hheight
  exact (Task.transcript_of_image hboth halone ⟨rfl, same⟩).1

end Showing

/-- Layers are views, and what is done in one is done in no other. A layer over files in memory
answers like the view with snapshots, whatever is done in any order through it and on the files;
the files with their journal are left as if nothing had been done through it; and it lists, each
once and in order, the paths of which it keeps a content. In a stack of any height, calls at greater
heights change no answer at a lower one; and as long as files are only looked at below a height,
that height answers like files in memory that were filled with what it showed at the start. -/
theorem layers_are_views (steps : List HostStep) :
    (∀ host : MemoryHost,
      Task.transcript HostStep.task steps (shadow host) =
          Task.transcript Snapshots.task steps (.fresh host) ∧
        (Task.afterAll HostStep.task steps (shadow host)).host =
          Task.afterAll HostCall.task (steps.filterMap (HostStep.at? 0)) host ∧
        (Task.afterAll HostStep.task steps (shadow host)).shadowed.Pairwise
          (fun left right => left.compare right = .lt) ∧
        ∀ components,
          (∃ path ∈ (Task.afterAll HostStep.task steps (shadow host)).shadowed,
              path.components = components) ↔
            ∃ content, (Task.afterAll Snapshots.task steps (.fresh host)).kept components =
              some (some content)) ∧
    (∀ (layers : Layered MemoryHost) (lower : Nat), lower < layers.height →
      (∀ step ∈ steps, lower < step.level) → ∀ call,
        Task.answer (HostStep.task ⟨lower, call⟩) (Task.afterAll HostStep.task steps layers) =
          Task.answer (HostStep.task ⟨lower, call⟩) layers) ∧
    (∀ (layers : Layered MemoryHost) (level : Nat),
      (∀ step ∈ steps, step.level ≤ layers.height ∧
        (step.level < level → step.call.looks = true)) →
        (Task.transcript HostStep.task steps layers).filterMap
            (fun entry => (entry.1.at? level).map fun call => (call, entry.2)) =
          Task.transcript HostCall.task (steps.filterMap (HostStep.at? level))
            (layers.upTo level).copy) := by
  refine ⟨fun host => ?_, ?_, ?_⟩
  · obtain ⟨htranscript, hshows⟩ := transcript_shadow host steps
    exact ⟨htranscript, host_afterAll_shadow host steps, shadowed_of_shows hshows⟩
  · intro layers lower hheight hsteps call
    have hcontents := contents_upTo_afterAll hsteps hheight
    rw [HostStep.task, answer_atHeight, answer_atHeight]
    exact answer_of_contents hcontents call
  · intro layers level hsteps
    exact transcript_copy (contents_copy (layers.upTo level)).symm hsteps

/-- Two fresh layers over one file. -/
def twoLayers : Layered MemoryHost :=
  .covered (shadow (.withFiles [(⟨"a"⟩, "old")])) PathMap.empty

/-- Calls at all heights, of which only those at the top write. -/
def topWrites : List HostStep :=
  [⟨2, .write ⟨"a"⟩ "new"⟩, ⟨0, .read ⟨"a"⟩⟩, ⟨1, .read ⟨"./a"⟩⟩, ⟨2, .ensureFile ⟨"b"⟩⟩,
    ⟨1, .has ⟨"b"⟩⟩]

/-- The lower layer of the two goes on to show the file as it was. -/
theorem twoLayers_are_views :
    Task.answer (HostStep.task ⟨1, .read ⟨"a"⟩⟩)
        (Task.afterAll HostStep.task [⟨2, .write ⟨"a"⟩ "new"⟩] twoLayers) =
      Task.answer (HostStep.task ⟨1, .read ⟨"a"⟩⟩) twoLayers ∧
    (Task.transcript HostStep.task topWrites twoLayers).filterMap
        (fun entry => (entry.1.at? 1).map fun call => (call, entry.2)) =
      Task.transcript HostCall.task [.read ⟨"./a"⟩, .has ⟨"b"⟩] (twoLayers.upTo 1).copy :=
  ⟨(layers_are_views [⟨2, .write ⟨"a"⟩ "new"⟩]).2.1 twoLayers 1 (by decide) (by decide)
      (.read ⟨"a"⟩),
    (layers_are_views topWrites).2.2 twoLayers 1 (by decide)⟩

end Layered

end Scaffold
