import Scaffold.Host.Layered
import Scaffold.Proofs.InStep

/-!
# Heights of a stack

A task at a height works on the lower part of a stack and leaves the layers above as they are. What
it answers is what that part answers, and as long as it leaves the part as high as it was, what is
left of the parts below and above follows from what it leaves of its own.
-/

namespace Scaffold.Layered

variable {ω ε α : Type}

/-- A task below a cover does not touch the cover. -/
theorem atHeight_covered_of_le {level : Nat} {base : Layered ω} (h : level ≤ base.height)
    (task : Task ε (Layered ω) α) (overlay : Overlay) :
    atHeight level task (covered base overlay) =
      Task.seen (covered · overlay) (atHeight level task base) := by
  rw [atHeight, if_pos h]
  cases atHeight level task base <;> rfl

/-- A task above the base is one of the cover. -/
theorem atHeight_covered_of_lt {level : Nat} {base : Layered ω} (h : base.height < level)
    (task : Task ε (Layered ω) α) (overlay : Overlay) :
    atHeight level task (covered base overlay) = task (covered base overlay) := by
  rw [atHeight, if_neg (Nat.not_le_of_lt h)]

/-- What is answered and left at a height that a layer lies above. -/
theorem answer_atHeight_covered {level : Nat} {base : Layered ω} (h : level ≤ base.height)
    (task : Task ε (Layered ω) α) (overlay : Overlay) :
    Task.answer (atHeight level task) (covered base overlay) =
        Task.answer (atHeight level task) base ∧
      Task.after (atHeight level task) (covered base overlay) =
        covered (Task.after (atHeight level task) base) overlay := by
  unfold Task.answer Task.after
  rw [atHeight_covered_of_le h]
  cases atHeight level task base <;> exact ⟨rfl, rfl⟩

/-- At a height that no layer lies above, the task itself is made. -/
theorem answer_atHeight_top {level : Nat} {layers : Layered ω} (h : layers.height ≤ level)
    (task : Task ε (Layered ω) α) :
    Task.answer (atHeight level task) layers = task.answer layers ∧
      Task.after (atHeight level task) layers = task.after layers := by
  have hsame : atHeight level task layers = task layers := by
    cases layers with
    | ground host => rfl
    | covered base overlay => exact atHeight_covered_of_lt h task overlay
  unfold Task.answer Task.after
  rw [hsame]
  exact ⟨rfl, rfl⟩

/-- The part of a stack up to a height. -/
def upTo (level : Nat) : Layered ω → Layered ω
  | ground host => ground host
  | covered base overlay => if level ≤ base.height then upTo level base else covered base overlay

/-- Below a cover, the layers are those of its base. -/
theorem upTo_covered_of_le {level : Nat} {base : Layered ω} (h : level ≤ base.height)
    (overlay : Overlay) : (covered base overlay).upTo level = base.upTo level := by
  rw [upTo, if_pos h]

/-- A stack that is no higher is its own part. -/
theorem upTo_of_le {level : Nat} {layers : Layered ω} (h : layers.height ≤ level) :
    layers.upTo level = layers := by
  cases layers with
  | ground host => rfl
  | covered base overlay => rw [upTo, if_neg (Nat.not_le_of_lt h)]

/-- Layers that are cut off are as high as the cut. -/
theorem height_upTo (level : Nat) (layers : Layered ω) :
    (layers.upTo level).height = min level layers.height := by
  induction layers with
  | ground host => exact (Nat.min_zero level).symm
  | covered base overlay ih =>
    rw [upTo]
    change _ = min level (base.height + 1)
    split
    · next h => rw [ih, Nat.min_eq_left h, Nat.min_eq_left (Nat.le_succ_of_le h)]
    · next h => exact (Nat.min_eq_right (Nat.lt_of_not_le h)).symm

/-- A part of a part is a part of the whole. -/
theorem upTo_upTo {lower level : Nat} (h : lower ≤ level) (layers : Layered ω) :
    (layers.upTo level).upTo lower = layers.upTo lower := by
  induction layers with
  | ground host => rfl
  | covered base overlay ih =>
    by_cases hb : level ≤ base.height
    · rw [upTo_covered_of_le hb, ih, upTo_covered_of_le (Nat.le_trans h hb)]
    · have htop : (covered base overlay).height ≤ level := Nat.lt_of_not_le hb
      rw [upTo_of_le htop]

/-- What a task at a height answers is what the part up to there answers. -/
theorem answer_atHeight (level : Nat) (task : Task ε (Layered ω) α) (layers : Layered ω) :
    Task.answer (atHeight level task) layers = task.answer (layers.upTo level) := by
  induction layers with
  | ground host => rfl
  | covered base overlay ih =>
    by_cases hb : level ≤ base.height
    · rw [(answer_atHeight_covered hb task overlay).1, ih, upTo_covered_of_le hb]
    · have htop : (covered base overlay).height ≤ level := Nat.lt_of_not_le hb
      rw [upTo_of_le htop, (answer_atHeight_top htop task).1]

section Leaving

variable {level : Nat} {task : Task ε (Layered ω) α} {layers : Layered ω}

/-- A task at a height leaves the stack as high as it was if it does so with its part. -/
theorem height_atHeight
    (h : (task.after (layers.upTo level)).height = (layers.upTo level).height) :
    (Task.after (atHeight level task) layers).height = layers.height := by
  induction layers with
  | ground host => exact h
  | covered base overlay ih =>
    by_cases hb : level ≤ base.height
    · rw [upTo_covered_of_le hb] at h
      rw [(answer_atHeight_covered hb task overlay).2]
      exact congrArg (· + 1) (ih h)
    · have htop : (covered base overlay).height ≤ level := Nat.lt_of_not_le hb
      rw [upTo_of_le htop] at h
      rw [(answer_atHeight_top htop task).2]
      exact h

/-- What a task at a height leaves of the parts up to there is what it leaves of its own. -/
theorem upTo_atHeight_below
    (h : (task.after (layers.upTo level)).height = (layers.upTo level).height) {lower : Nat}
    (hlower : lower ≤ level) :
    (Task.after (atHeight level task) layers).upTo lower =
      (task.after (layers.upTo level)).upTo lower := by
  induction layers with
  | ground host => rfl
  | covered base overlay ih =>
    by_cases hb : level ≤ base.height
    · rw [upTo_covered_of_le hb] at h
      have hheight := height_atHeight h
      rw [upTo_covered_of_le hb, (answer_atHeight_covered hb task overlay).2,
        upTo_covered_of_le (Nat.le_trans hlower (Nat.le_trans hb (Nat.le_of_eq hheight.symm))),
        ih h]
    · have htop : (covered base overlay).height ≤ level := Nat.lt_of_not_le hb
      rw [upTo_of_le htop, (answer_atHeight_top htop task).2]

/-- What a task at a height leaves of the parts above is what it leaves when it is made on them. -/
theorem upTo_atHeight_above
    (h : (task.after (layers.upTo level)).height = (layers.upTo level).height) {higher : Nat}
    (hhigher : level ≤ higher) :
    (Task.after (atHeight level task) layers).upTo higher =
      Task.after (atHeight level task) (layers.upTo higher) := by
  induction layers with
  | ground host =>
    have hheight := height_atHeight h
    exact upTo_of_le (Nat.le_trans (Nat.le_of_eq hheight) (Nat.zero_le _))
  | covered base overlay ih =>
    have hheight := height_atHeight h
    by_cases hb : higher ≤ base.height
    · have hl := Nat.le_trans hhigher hb
      rw [upTo_covered_of_le hl] at h
      have hbase := height_atHeight h
      rw [upTo_covered_of_le hb, (answer_atHeight_covered hl task overlay).2,
        upTo_covered_of_le (Nat.le_trans hb (Nat.le_of_eq hbase.symm)), ih h]
    · have hle : (covered base overlay).height ≤ higher := Nat.lt_of_not_le hb
      rw [upTo_of_le hle, upTo_of_le (Nat.le_trans (Nat.le_of_eq hheight) hle)]

end Leaving

end Scaffold.Layered
