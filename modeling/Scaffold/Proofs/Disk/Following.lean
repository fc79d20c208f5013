import Scaffold.Proofs.Path.Under

/-!
# Following paths

Steps lead from one directory to another through directories and links. What is appended to them is
followed from where they lead, for whatever purpose, and steps that go nowhere at their end make no
difference. Where they lead does not change when a disk grows, that is, as long as its directories
and links stay.
-/

namespace Scaffold

namespace Disk

theorem isIdle_iff {step : String} : (step == "" || step == ".") = true ↔ IsIdle step := by
  rw [Bool.or_eq_true, beq_iff_eq, beq_iff_eq, IsIdle]

/-- A step to an entry. -/
structure IsStep (step : String) : Prop where
  /-- It goes somewhere. -/
  notIdle : ¬IsIdle step
  /-- It does not go up. -/
  notUp : step ≠ ".."
  /-- It is not too long. -/
  short : step.utf8ByteSize ≤ nameLimit

/-- A name is a step. -/
theorem IsName.isStep {name : String} (h : IsName name) : IsStep name :=
  ⟨fun hidle => hidle.elim h.nonempty h.notHere, h.notUp, h.short⟩

/-- Steps lead from a directory to a directory, and this many links may be followed before and
after. -/
inductive Leads (disk : Disk) : Nat → Place → List String → Nat → Place → Prop
  /-- Without steps. -/
  | here (links : Nat) (current : Place) : Leads disk links current [] links current
  /-- By a step that goes nowhere. -/
  | idle {links left : Nat} {current base : Place} {step : String} {rest : List String}
      (step_idle : IsIdle step) (rest_leads : Leads disk links current rest left base) :
      Leads disk links current (step :: rest) left base
  /-- By a step up. -/
  | up {links left : Nat} {current base : Place} {rest : List String}
      (rest_leads : Leads disk links current.dropLast rest left base) :
      Leads disk links current (".." :: rest) left base
  /-- By a step into a directory. -/
  | enter {links left : Nat} {current base : Place} {step : String} {rest : List String}
      (isStep : IsStep step) (entered : disk.entry? (current ++ [step]) = some .directory)
      (rest_leads : Leads disk links (current ++ [step]) rest left base) :
      Leads disk links current (step :: rest) left base
  /-- By a step to a link. -/
  | jump {links left : Nat} {current base : Place} {step target : String} {rest : List String}
      (isStep : IsStep step) (linked : disk.entry? (current ++ [step]) = some (.link target))
      (rest_leads : Leads disk links (if (Path.mk target).isAbsolute then [] else current)
        (steps target ++ rest) left base) :
      Leads disk (links + 1) current (step :: rest) left base

section Follow

variable {disk : Disk} {purpose : Purpose} {links left : Nat} {current base : Place}
  {step : String} {before rest idle : List String}

/-- An idle step leads nowhere. -/
theorem follow_idle (h : IsIdle step) :
    disk.follow purpose links current (step :: rest) = disk.follow purpose links current rest := by
  rw [follow, if_pos (isIdle_iff.mpr h)]

/-- Two dots lead to the place above. -/
theorem follow_up :
    disk.follow purpose links current (".." :: rest) =
      disk.follow purpose links current.dropLast rest := by
  rw [follow, if_neg (by decide), if_pos (by decide)]

/-- A step to an entry that is not the last one of a path written to with separators at its end. -/
theorem follow_isStep (h : IsStep step)
    (hwrite : purpose ≠ .write ∨ rest = [] ∨ isTrailing rest = false) :
    disk.follow purpose links current (step :: rest) =
      match disk.entry? (current ++ [step]) with
      | none => if isTrailing rest then .ok (.free (current ++ [step])) else .error .notFound
      | some .directory => disk.follow purpose links (current ++ [step]) rest
      | some (.file content) =>
        if rest.isEmpty then .ok (.taken (current ++ [step]) (.file content))
        else .error .notDirectory
      | some (.link target) =>
        if rest.isEmpty && purpose == .inspect then .ok (.taken (current ++ [step]) (.link target))
        else
          match links with
          | 0 => .error .tooManyLinks
          | links + 1 =>
            disk.follow purpose links (if (Path.mk target).isAbsolute then [] else current)
              (steps target ++ rest) := by
  have hidle : ¬(step == "" || step == ".") = true := fun hidle => h.notIdle (isIdle_iff.mp hidle)
  have hup : ¬(step == "..") = true := fun hup => h.notUp (beq_iff_eq.mp hup)
  have htrailing : ¬(purpose == .write && !rest.isEmpty && isTrailing rest) = true := by
    rw [Bool.not_eq_true]
    obtain hpurpose | rfl | hrest := hwrite
    · rw [beq_eq_false_iff_ne.mpr hpurpose, Bool.false_and, Bool.false_and]
    · rw [List.isEmpty_nil, Bool.not_true, Bool.and_false, Bool.false_and]
    · rw [hrest, Bool.and_false]
  rw [follow, if_neg hidle, if_neg hup, if_neg htrailing]
  exact if_neg (Nat.not_lt.mpr h.short)

/-- What is short and neither idle nor up is a step. -/
theorem isStep_of_not (hidle : ¬(step == "" || step == ".") = true) (hup : ¬(step == "..") = true)
    (hshort : ¬nameLimit < step.utf8ByteSize) : IsStep step :=
  ⟨fun h => hidle (isIdle_iff.mpr h), fun h => hup (beq_iff_eq.mpr h), Nat.not_lt.mp hshort⟩

/-- A path that is found to be a directory leads there. -/
theorem leads_of_follow (h : disk.follow .use links current before = .ok (.taken base .directory)) :
    ∃ left, Leads disk links current before left base := by
  fun_induction follow disk .use links current before with
  | case1 links current =>
    cases h
    exact ⟨links, .here links base⟩
  | case2 links current step rest hidle ih =>
    obtain ⟨left, hrest⟩ := ih h
    exact ⟨left, .idle (isIdle_iff.mp hidle) hrest⟩
  | case3 links current step rest hidle hup ih =>
    cases beq_iff_eq.mp hup
    obtain ⟨left, hrest⟩ := ih h
    exact ⟨left, .up hrest⟩
  | case8 links current step rest hidle hup _ hshort place hentry ih =>
    obtain ⟨left, hrest⟩ := ih h
    exact ⟨left, .enter (isStep_of_not hidle hup hshort) hentry hrest⟩
  | case13 current step rest hidle hup _ hshort place target hentry _ links ih =>
    simp only [dite_eq_ite] at ih
    obtain ⟨left, hrest⟩ := ih h
    exact ⟨left, .jump (isStep_of_not hidle hup hshort) hentry hrest⟩
  -- All other steps end in a fault, at a file or at a free place.
  | _ => simp only [Except.ok.injEq, Spot.taken.injEq, reduceCtorEq, and_false] at h

/-- What is appended to steps is followed from where they lead. -/
theorem Leads.follow_append (h : Leads disk links current before left base)
    (hrest : purpose = .use ∨ isTrailing rest = false) :
    disk.follow purpose links current (before ++ rest) = disk.follow purpose left base rest := by
  have htrailing : ∀ steps, purpose ≠ .write ∨ isTrailing (steps ++ rest) = false := by
    intro steps
    refine hrest.imp (by rintro rfl; exact Purpose.noConfusion) fun h => ?_
    rw [isTrailing, List.all_append, Bool.and_eq_false_iff]
    exact .inr h
  have hinspect : ∀ steps, ((steps ++ rest).isEmpty && purpose == .inspect) = false := by
    intro steps
    obtain rfl | hrest := hrest
    · exact Bool.and_false _
    · have hne : rest ≠ [] := by rintro rfl; cases hrest
      rw [List.isEmpty_eq_false_iff.mpr (List.append_ne_nil_of_right_ne_nil steps hne),
        Bool.false_and]
  induction h with
  | here links current => rfl
  | idle hidle _ ih => rw [List.cons_append, follow_idle hidle, ih]
  | up _ ih => rw [List.cons_append, follow_up, ih]
  | @enter links left current base step steps hstep hentry _ ih =>
    rw [List.cons_append, follow_isStep hstep ((htrailing steps).imp id .inr), hentry]
    exact ih
  | @jump links left current base step target steps hstep hentry _ ih =>
    rw [List.cons_append, follow_isStep hstep ((htrailing steps).imp id .inr), hentry]
    simp only [hinspect, Bool.false_eq_true, if_false]
    rw [← List.append_assoc]
    exact ih

/-- Steps that lead to a directory find it. -/
theorem Leads.follow (h : Leads disk links current before left base) :
    disk.follow .use links current before = .ok (.taken base .directory) := by
  have happend := @Leads.follow_append _ .use _ _ _ _ _ [] h (.inl rfl)
  rw [List.append_nil] at happend
  rw [happend, Disk.follow]

/-- Steps that lead to a directory find something there, be it a link to it. -/
theorem Leads.follow_inspect (h : Leads disk links current before left base) :
    ∃ place entry, disk.follow .inspect links current before = .ok (.taken place entry) := by
  induction h with
  | here links current => exact ⟨current, .directory, by rw [Disk.follow]⟩
  | idle hidle _ ih =>
    rw [follow_idle hidle]
    exact ih
  | up _ ih =>
    rw [follow_up]
    exact ih
  | enter hstep hentry _ ih =>
    rw [follow_isStep hstep (.inl Purpose.noConfusion), hentry]
    exact ih
  | @jump links left current base step target steps hstep hentry _ ih =>
    rw [follow_isStep hstep (.inl Purpose.noConfusion), hentry]
    by_cases hlast : (steps.isEmpty && Purpose.inspect == .inspect) = true
    · exact ⟨current ++ [step], .link target, by simp only [hlast, if_true]⟩
    · simp only [hlast]
      exact ih

/-- Idle steps behind a way lead to where it leads. -/
theorem Leads.append_idle (h : Leads disk links current before left base)
    (hidle : ∀ step ∈ idle, IsIdle step) : Leads disk links current (before ++ idle) left base := by
  induction h with
  | here links current =>
    induction idle with
    | nil => exact .here links current
    | cons step rest ih =>
      obtain ⟨hstep, hrest⟩ := List.forall_mem_cons.mp hidle
      exact .idle hstep (ih hrest)
  | idle hstep _ ih => exact .idle hstep ih
  | up _ ih => exact .up ih
  | enter hstep hentry _ ih => exact .enter hstep hentry ih
  | jump hstep hentry _ ih =>
    rw [List.append_assoc] at ih
    exact .jump hstep hentry ih

/-- Idle steps lead nowhere else. -/
theorem Leads.eq_of_idle (h : Leads disk links current idle left base)
    (hidle : ∀ step ∈ idle, IsIdle step) : left = links ∧ base = current := by
  induction idle with
  | nil =>
    cases h
    exact ⟨rfl, rfl⟩
  | cons step rest ih =>
    obtain ⟨hstep, hrest⟩ := List.forall_mem_cons.mp hidle
    cases h with
    | idle _ h => exact ih h hrest
    | up _ => exact absurd hstep (by simp [IsIdle])
    | enter isStep _ _ => exact absurd hstep isStep.notIdle
    | jump isStep _ _ => exact absurd hstep isStep.notIdle

/-- Idle steps at the end can be left out. -/
theorem Leads.of_append_idle (h : Leads disk links current (before ++ idle) left base)
    (hidle : ∀ step ∈ idle, IsIdle step) : Leads disk links current before left base := by
  generalize hall : before ++ idle = all at h
  -- Where nothing stands before the idle steps, they have led nowhere else.
  have hnothing : ∀ {links left : Nat} {current base : Place} {all : List String},
      [] ++ idle = all → Leads disk links current all left base →
        Leads disk links current [] left base := by
    rintro links left current base _ rfl h
    obtain ⟨rfl, rfl⟩ := h.eq_of_idle hidle
    exact .here left base
  induction h generalizing before with
  | here links current =>
    rw [(List.append_eq_nil_iff.mp hall).1]
    exact .here links current
  | idle hstep hrest ih =>
    cases before with
    | nil => exact hnothing hall (.idle hstep hrest)
    | cons first others =>
      obtain ⟨rfl, htail⟩ := List.cons.inj hall
      exact .idle hstep (ih htail)
  | up hrest ih =>
    cases before with
    | nil => exact hnothing hall (.up hrest)
    | cons first others =>
      obtain ⟨rfl, htail⟩ := List.cons.inj hall
      exact .up (ih htail)
  | enter hstep hentry hrest ih =>
    cases before with
    | nil => exact hnothing hall (.enter hstep hentry hrest)
    | cons first others =>
      obtain ⟨rfl, htail⟩ := List.cons.inj hall
      exact .enter hstep hentry (ih htail)
  | jump hstep hentry hrest ih =>
    cases before with
    | nil => exact hnothing hall (.jump hstep hentry hrest)
    | cons first others =>
      obtain ⟨rfl, htail⟩ := List.cons.inj hall
      exact .jump hstep hentry
        (ih ((List.append_assoc _ _ _).trans (congrArg (steps _ ++ ·) htail)))

end Follow

/-- A disk on which the directories and links of another one are still there. -/
structure Grows (disk grown : Disk) : Prop where
  /-- The working directory is the same. -/
  cwd : grown.cwd = disk.cwd
  /-- What is not a file stays. -/
  kept {place : Place} {entry : DiskEntry} (h : disk.entry? place = some entry)
    (notFile : ∀ content, entry ≠ .file content) : grown.entry? place = some entry

/-- Steps lead to the same place when the disk has grown. -/
theorem Leads.grow {disk grown : Disk} {links left : Nat} {current base : Place}
    {before : List String} (h : Leads disk links current before left base)
    (hgrows : Grows disk grown) : Leads grown links current before left base := by
  induction h with
  | here links current => exact .here links current
  | idle hstep _ ih => exact .idle hstep ih
  | up _ ih => exact .up ih
  | enter hstep hentry _ ih =>
    exact .enter hstep (hgrows.kept hentry fun _ => DiskEntry.noConfusion) ih
  | jump hstep hentry _ ih =>
    exact .jump hstep (hgrows.kept hentry fun _ => DiskEntry.noConfusion) ih

end Disk

end Scaffold
