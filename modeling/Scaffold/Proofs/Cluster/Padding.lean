import Scaffold.Proofs.Change.Padding
import Scaffold.Proofs.Cluster.Order
import Scaffold.Proofs.Lifecycle.Applying

/-!
# Placeholders in a plan

Placeholders edit nothing, but a bundle takes the highest order of its parts, and that of a new
placeholder is the greatest there is. So a placeholder between the changes of a plan makes no
difference to any content, while one in a bundle moves the bundle to the front of the cluster. It
makes no difference only if the bundle keeps its place among the other changes.
-/

namespace Scaffold

namespace Change

/-- Pairs of changes of which the later generated takes precedence in both forms of the plan, or in
neither. -/
def KeepsOrder (pairs : List (Change × Change)) : Prop :=
  pairs.Pairwise fun earlier later =>
    earlier.1.order ≤ later.1.order ↔ earlier.2.order ≤ later.2.order

instance : DecidablePred KeepsOrder := fun pairs =>
  inferInstanceAs (Decidable (pairs.Pairwise fun earlier later =>
    earlier.1.order ≤ later.1.order ↔ earlier.2.order ≤ later.2.order))

/-- The changes of a plan with the forms they have in another one. -/
def aligned (plan padded : List Change) : List (Change × Change) :=
  (effective plan).zip (effective padded)

end Change

namespace PaddedPlan

variable {plan padded : List Change}

/-- The first forms are the changes of the plan. -/
theorem map_fst_aligned (h : PaddedPlan plan padded) :
    (Change.aligned plan padded).map Prod.fst = Change.effective plan :=
  List.map_fst_zip (Nat.le_of_eq h.effective.length_eq)

/-- The second forms are the changes of the padded plan. -/
theorem map_snd_aligned (h : PaddedPlan plan padded) :
    (Change.aligned plan padded).map Prod.snd = Change.effective padded :=
  List.map_snd_zip (Nat.le_of_eq h.effective.length_eq.symm)

/-- The second form is the first one, padded. -/
theorem padded_of_mem_aligned (h : PaddedPlan plan padded) {pair : Change × Change}
    (hm : pair ∈ Change.aligned plan padded) : Padded pair.1 pair.2 :=
  List.forall₂_iff_zip.mp h.effective |>.2 hm

end PaddedPlan

namespace ChangeCluster

open Change

/-- Two forms of a plan that keep their order are sorted in the same way. -/
theorem exists_sort_pairs {pairs : List (Change × Change)} (kept : KeepsOrder pairs) :
    ∃ sorted : List (Change × Change), sorted.Perm pairs ∧
      sorted.map Prod.fst = sort (pairs.map Prod.fst) ∧
      sorted.map Prod.snd = sort (pairs.map Prod.snd) := by
  induction pairs using List.reverseRecOn with
  | nil => exact ⟨[], .nil, by simp [sort], by simp [sort]⟩
  | append_singleton rest pair ih =>
    obtain ⟨hrest, _, hpair⟩ := List.pairwise_append.mp kept
    obtain ⟨sorted, hperm, hfst, hsnd⟩ := ih hrest
    have halike : ∀ other ∈ sorted, goesFirst pair.2 other.2 = goesFirst pair.1 other.1 := by
      intro other hm
      have hiff := hpair other (hperm.mem_iff.mp hm) pair List.mem_cons_self
      rw [goesFirst, goesFirst, Bool.eq_iff_iff, decide_eq_true_iff, decide_eq_true_iff]
      exact hiff.symm
    have hbehind : sorted.filter (fun other => goesFirst pair.2 other.2) =
        sorted.filter fun other => goesFirst pair.1 other.1 := List.filter_congr halike
    have hbefore : sorted.filter (fun other => !goesFirst pair.2 other.2) =
        sorted.filter fun other => !goesFirst pair.1 other.1 :=
      List.filter_congr fun other hm => congrArg Bool.not (halike other hm)
    refine ⟨sorted.filter (fun other => !goesFirst pair.1 other.1) ++
      pair :: sorted.filter fun other => goesFirst pair.1 other.1, ?_, ?_, ?_⟩
    · have hsplit := List.filter_append_perm (fun other => goesFirst pair.1 other.1) sorted
      have hsame := (List.perm_append_comm.trans hsplit).trans hperm
      exact List.perm_middle.trans ((hsame.cons pair).trans (List.perm_append_singleton _ _).symm)
    · rw [List.map_append, List.map_append, List.map_cons, List.map_cons, List.map_nil, sort_concat,
        ← hfst, List.filter_map, List.filter_map]
      rfl
    · rw [← hbehind, ← hbefore, List.map_append, List.map_append, List.map_cons, List.map_cons,
        List.map_nil, sort_concat, ← hsnd, List.filter_map, List.filter_map]
      rfl

variable {ω : Type} [FileHost ω]

/-- Changes and their padded forms do the same in the order of a cluster, if they keep it. -/
theorem applyAll_sort_pairs {pairs : List (Change × Change)}
    (padded : ∀ pair ∈ pairs, Padded pair.1 pair.2) (kept : KeepsOrder pairs) :
    (applyAll (sort (pairs.map Prod.snd)) : Task ChangeError ω Unit) =
      applyAll (sort (pairs.map Prod.fst)) := by
  obtain ⟨sorted, hperm, hfst, hsnd⟩ := exists_sort_pairs kept
  have hpadded : ∀ pair ∈ sorted, Padded pair.1 pair.2 :=
    fun pair hm => padded pair (hperm.mem_iff.mp hm)
  rw [← hfst, ← hsnd]
  clear hperm hfst hsnd
  induction sorted with
  | nil => rfl
  | cons pair rest ih =>
    obtain ⟨hfirst, hrest⟩ := List.forall_mem_cons.mp hpadded
    rw [List.map_cons, List.map_cons, applyAll, applyAll, hfirst.apply_eq, ih hrest]

/-- Of the changes of a padded plan, those of a kind that does not depend on placeholders in them
do what they do without the placeholders, if they keep their order. -/
theorem applyAll_filter_sort_padded {plan padded : List Change} (h : PaddedPlan plan padded)
    {picked : Change → Bool}
    (alike : ∀ {first second}, Padded first second → picked second = picked first)
    (kept : KeepsOrder ((aligned plan padded).filter fun pair => picked pair.1)) :
    (applyAll ((sort padded).filter picked) : Task ChangeError ω Unit) =
      applyAll ((sort plan).filter picked) := by
  have heffective : ∀ changes : List Change,
      effective ((sort changes).filter picked) = sort ((effective changes).filter picked) := by
    intro changes
    rw [effective, filter_sort, filter_sort, effective, List.filter_filter, List.filter_filter]
    exact congrArg sort (List.filter_congr fun change _ => Bool.and_comm _ _)
  have hpadded : ∀ pair ∈ (aligned plan padded).filter fun pair => picked pair.1,
      Padded pair.1 pair.2 := fun pair hm => h.padded_of_mem_aligned (List.mem_filter.mp hm).1
  have hfst : ((aligned plan padded).filter fun pair => picked pair.1).map Prod.fst =
      (effective plan).filter picked := by
    rw [← h.map_fst_aligned, List.filter_map]
    rfl
  have hsnd : ((aligned plan padded).filter fun pair => picked pair.1).map Prod.snd =
      (effective padded).filter picked := by
    rw [← h.map_snd_aligned, List.filter_map]
    refine congrArg (List.map Prod.snd) (List.filter_congr fun pair hm => ?_)
    exact (alike (h.padded_of_mem_aligned hm)).symm
  rw [← applyAll_effective, ← applyAll_effective ((sort plan).filter picked), heffective,
    heffective, ← hfst, ← hsnd]
  exact applyAll_sort_pairs hpadded kept

end ChangeCluster

/-- The texts of files under their components, an absent file being empty. -/
abbrev Texts := List PathComponent → String

instance : FileHost Texts where
  read path := fun texts => .ok (texts path.components) texts
  write path content := fun texts => .ok () (Function.update texts path.components content)
  has _ _ := true
  ensureFile _ := pure ()

namespace Contents

/-- What reading every file gives. -/
def texts (contents : Contents) : Texts := fun components => (contents components).getD ""

/-- The texts of a host mirror its files. -/
theorem mirrorsFile_texts (path : Path) : MirrorsFile texts path := by
  refine ⟨fun contents => rfl, fun content contents => ?_⟩
  refine congrArg (EStateM.Result.ok ()) (funext fun components => ?_)
  rw [Function.update_apply]
  unfold texts
  by_cases hc : path.components = components
  · rw [if_pos hc.symm, ← hc, put_self, Option.getD_some]
  · rw [if_neg (Ne.symm hc), put_other hc]

/-- Creating files empty is not seen by reading. -/
theorem texts_foldl_touch (paths : List Path) (contents : Contents) :
    texts (paths.foldl touch contents) = contents.texts := by
  funext components
  unfold texts
  rw [foldl_touch_apply]
  split
  · next h => rw [h.2, Option.getD_some, Option.getD_none]
  · rfl

end Contents

namespace Session

variable {generated : List Change}

/-- Seen by reading, applying a plan is applying its changes in order. -/
theorem texts_applyCluster (contents : Contents) :
    Task.seen Contents.texts (applyCluster (ChangeCluster.ofChanges generated) contents) =
      Change.applyAll (ChangeCluster.sort generated) contents.texts := by
  have hmirrors : Task.Mirrors Contents.texts
      (Change.applyAll (ChangeCluster.sort generated) : Task ChangeError Contents Unit)
      (Change.applyAll (ChangeCluster.sort generated)) :=
    Change.mirrors_applyAll fun _ _ path _ => Contents.mirrorsFile_texts path
  rw [applyCluster_contents, hmirrors, Contents.texts_foldl_touch]

/-- A plan can be applied exactly if on each file its changes can. -/
theorem applyCluster_succeeds_iff_forall (contents : Contents) :
    (applyCluster (ChangeCluster.ofChanges generated)).succeeds contents = true ↔
      ∀ path, (Change.applyAll (Change.on path (ChangeCluster.sort generated))).succeeds
        (contents.sole path) = true := by
  have hiff := Change.applyAll_succeeds_iff (ChangeCluster.sort generated)
    ((ChangeCluster.ofChanges generated).files.foldl Contents.touch contents)
  simp only [Contents.sole_foldl_touch] at hiff
  rw [Task.succeeds, applyCluster_contents, ← Task.succeeds, hiff]
  refine ⟨fun h path => ?_, fun h path _ => h path⟩
  by_cases hnone : Change.on path (ChangeCluster.sort generated) = []
  · rw [hnone]
    rfl
  · exact h path hnone

/-- A plan that was applied left of each file what its changes make of it. -/
theorem applyCluster_sole_of_ok {contents left : Contents}
    (h : applyCluster (ChangeCluster.ofChanges generated) contents = .ok () left) (path : Path) :
    Change.applyAll (Change.on path (ChangeCluster.sort generated)) (contents.sole path) =
      .ok () (left.sole path) := by
  rw [applyCluster_contents] at h
  have hsole := Change.applyAll_sole_of_ok h path
  rw [Contents.sole_foldl_touch] at hsole
  exact hsole

end Session

theorem MemoryHost.text_eq (host : MemoryHost) :
    host.text = fun path => (ContentHost.contents host).texts path.components := by
  funext path
  rw [text, content?_eq]
  rfl

namespace PaddedPlan

open Change ChangeCluster Session

variable {plan padded : List Change} (h : PaddedPlan plan padded) (host : MemoryHost)

include h

/-- A padded plan that keeps its order ends as the plan does, and leaves the same texts. -/
theorem texts_applyCluster (kept : KeepsOrder (aligned plan padded)) :
    Task.seen MemoryHost.text (applyCluster (ofChanges padded) host) =
      Task.seen MemoryHost.text (applyCluster (ofChanges plan) host) := by
  have hsort := @applyAll_filter_sort_padded Texts _ _ _ h (fun _ => true) (fun _ => rfl)
    (by rw [List.filter_true]; exact kept)
  rw [List.filter_true, List.filter_true] at hsort
  have hseen : ∀ generated : List Change,
      Task.seen MemoryHost.text (applyCluster (ofChanges generated) host) =
        Task.seen (fun texts path => texts path.components)
          (applyAll (sort generated) (ContentHost.contents host).texts) := by
    intro generated
    have hmirrors := @mirrors_applyCluster MemoryHost _ _ (ofChanges generated)
    rw [← Session.texts_applyCluster, ← hmirrors host]
    cases applyCluster (ofChanges generated) host with
    | ok value left => exact congrArg (EStateM.Result.ok value) left.text_eq
    | error error left => exact congrArg (EStateM.Result.error error) left.text_eq
  rw [hseen, hseen, hsort]

/-- On each file on which a padded plan keeps its order, its changes do what those of the plan
do. -/
theorem applyAll_on_sort {path : Path}
    (kept : KeepsOrder ((aligned plan padded).filter fun pair => pair.1.isOn path)) :
    (applyAll (on path (sort padded)) : Task ChangeError SoleFile Unit) =
      applyAll (on path (sort plan)) :=
  applyAll_filter_sort_padded h (fun hpadded => hpadded.isOn_eq path) kept

/-- Placeholders make no difference to any text as long as the bundles they are put into keep
their places. If the changes of each file keep their order, then the padded plan can be applied
exactly if the plan can, and they leave the same texts. If the order is also kept between the
files, they leave the same texts and end with the same error even where they fail. -/
theorem applyCluster_padded :
    ((∀ path, KeepsOrder ((aligned plan padded).filter fun pair => pair.1.isOn path)) →
      (applyCluster (ofChanges padded)).succeeds host =
        (applyCluster (ofChanges plan)).succeeds host ∧
      ∀ left paddedLeft, applyCluster (ofChanges plan) host = .ok () left →
        applyCluster (ofChanges padded) host = .ok () paddedLeft →
          paddedLeft.text = left.text) ∧
    (KeepsOrder (aligned plan padded) →
      Task.seen MemoryHost.text (applyCluster (ofChanges padded) host) =
        Task.seen MemoryHost.text (applyCluster (ofChanges plan) host)) := by
  refine ⟨fun kept => ⟨?_, ?_⟩, h.texts_applyCluster host⟩
  · have hplan := @mirrors_applyCluster MemoryHost _ _ (ofChanges plan)
    have hpadded := @mirrors_applyCluster MemoryHost _ _ (ofChanges padded)
    rw [Bool.eq_iff_iff, ← hplan.succeeds_eq, ← hpadded.succeeds_eq,
      applyCluster_succeeds_iff_forall, applyCluster_succeeds_iff_forall]
    simp only [h.applyAll_on_sort (kept _)]
  · intro left paddedLeft hleft hpaddedLeft
    have hplan := (@mirrors_applyCluster MemoryHost _ _ (ofChanges plan)).of_ok hleft
    have hpadded := (@mirrors_applyCluster MemoryHost _ _ (ofChanges padded)).of_ok hpaddedLeft
    funext path
    have hsole := applyCluster_sole_of_ok hplan path
    have hpaddedSole := applyCluster_sole_of_ok hpadded path
    rw [h.applyAll_on_sort (kept path), hsole] at hpaddedSole
    have htext := congrArg SoleFile.text (EStateM.Result.ok.inj hpaddedSole).2
    rw [MemoryHost.text_eq, MemoryHost.text_eq]
    exact htext.symm

omit h

/-- A sign for another file, a letter put into the file, and a bundle behind it that puts in a
letter and removes the one before. -/
def bundledLetters : List Change :=
  [.insert ⟨"g"⟩ 0 "!", .insert ⟨"f"⟩ 3 "Y",
    .multi ⟨"f"⟩ [.insert ⟨"f"⟩ 5 "Z", .multi ⟨"f//"⟩ [.remove ⟨"f"⟩ 4 5]]]

/-- The plan with a placeholder in the inner bundle and one for a file that is not there. -/
def paddedLetters : List Change :=
  [.insert ⟨"g"⟩ 0 "!", .insert ⟨"f"⟩ 3 "Y",
    .multi ⟨"f"⟩ [.insert ⟨"f"⟩ 5 "Z", .multi ⟨"f//"⟩ [.placeholder none, .remove ⟨"f"⟩ 4 5]],
    .placeholder (some ⟨"new"⟩)]

/-- A file of six letters. -/
def sixLetters : MemoryHost := .withFiles [(⟨"f"⟩, "abcdef")]

/-- A placeholder in the bundle of the letters pads it. -/
theorem padded_letters : PaddedPlan bundledLetters paddedLetters :=
  .cons (.same _) (.cons (.same _) (.cons
    (.bundle _ _ _ (.keep _ (.bundle _ _ _ (.add _ (.keep _ .nil)) .nil))) (.add _ _ .nil)))

/-- The bundle of letters keeps its place, so the placeholders leave the texts as they are. -/
theorem applyCluster_paddedLetters :
    PaddedPlan bundledLetters paddedLetters ∧
      KeepsOrder (aligned bundledLetters paddedLetters) ∧
      (∀ path, KeepsOrder ((aligned bundledLetters paddedLetters).filter fun pair =>
        pair.1.isOn path)) ∧
      Task.seen MemoryHost.text (applyCluster (ofChanges paddedLetters) sixLetters) =
        Task.seen MemoryHost.text (applyCluster (ofChanges bundledLetters) sixLetters) ∧
      ∃ left, applyCluster (ofChanges paddedLetters) sixLetters = .ok () left ∧
        left.text ⟨"f"⟩ = "abcYdZf" ∧ left.text ⟨"g"⟩ = "!" := by
  have hkept : KeepsOrder (aligned bundledLetters paddedLetters) := by decide
  have hfiles : ∀ path, KeepsOrder ((aligned bundledLetters paddedLetters).filter fun pair =>
      pair.1.isOn path) := fun path => hkept.filter _
  have hsort : sort bundledLetters = bundledLetters.reverse := sort_of_ascending (by decide)
  obtain ⟨left, hleft, hf, hg⟩ : ∃ left,
      applyCluster (ofChanges bundledLetters) sixLetters = .ok () left ∧
        left.text ⟨"f"⟩ = "abcYdZf" ∧ left.text ⟨"g"⟩ = "!" := by
    rw [ofChanges, hsort]
    exact ⟨_, rfl, rfl, rfl⟩
  obtain ⟨hperFile, hall⟩ := applyCluster_padded padded_letters sixLetters
  obtain ⟨hsucceeds, htext⟩ := hperFile hfiles
  rw [Bool.eq_iff_iff, Task.succeeds_iff, Task.succeeds_iff] at hsucceeds
  obtain ⟨_, paddedLeft, hpadded⟩ := hsucceeds.mpr ⟨(), left, hleft⟩
  have hsame := htext left paddedLeft hleft hpadded
  refine ⟨padded_letters, hkept, hfiles, hall hkept, paddedLeft, hpadded, ?_, ?_⟩
  · rw [hsame, hf]
  · rw [hsame, hg]

/-- A bundle of one letter, and a letter behind it. -/
def earlyBundle : List Change :=
  [.multi ⟨"f"⟩ [.insert ⟨"f"⟩ 1 "X"], .insert ⟨"f"⟩ 5 "Z"]

/-- The same with a placeholder in the bundle. -/
def paddedBundle : List Change :=
  [.multi ⟨"f"⟩ [.insert ⟨"f"⟩ 1 "X", .placeholder none], .insert ⟨"f"⟩ 5 "Z"]

/-- A placeholder in a bundle moves the bundle to the front, so that the edit behind it is made
after it and one byte too early. -/
theorem placeholder_in_bundle_displaces_edit :
    PaddedPlan earlyBundle paddedBundle ∧
      ∃ left paddedLeft, applyCluster (ofChanges earlyBundle) sixLetters = .ok () left ∧
        applyCluster (ofChanges paddedBundle) sixLetters = .ok () paddedLeft ∧
        left.text ⟨"f"⟩ = "aXbcdeZf" ∧ paddedLeft.text ⟨"f"⟩ = "aXbcdZef" := by
  have hearly : sort earlyBundle = earlyBundle.reverse := sort_of_ascending (by decide)
  have hpadded : sort paddedBundle = paddedBundle := sort_eq_of_falling (.refl _) (by decide)
  refine ⟨.cons (.bundle _ _ _ (.keep _ (.add _ .nil))) (.cons (.same _) .nil), ?_⟩
  rw [ofChanges, ofChanges, hearly, hpadded]
  exact ⟨_, _, rfl, rfl, rfl, rfl⟩

end PaddedPlan

end Scaffold
