import Mathlib.Algebra.Group.Nat.Defs
import Scaffold.Proofs.Change.Simultaneous
import Scaffold.Proofs.Cluster.Order
import Scaffold.Proofs.Contents

/-!
# Offsets stay valid

Edits are generated with offsets into the content as it is before any of them. In the order of a
cluster the last position comes first, and of equal positions the edit generated last, so no edit
moves what a later one means: applying the cluster comes to the same as making all edits of a file
at once.
-/

namespace Scaffold

open Text

namespace Change

/-- The edits of a file among changes. -/
def editsOn (path : Path) (changes : List Change) : List Edit := (on path changes).filterMap edit?

/-- Whether the change is an edit of the file that starts at the position. -/
def editsAt (path : Path) (position : Nat) (change : Change) : Bool :=
  change.isOn path && change.edit?.any (Edit.startsAt position)

/-- The edits that start at a position are those of the changes there. -/
theorem filter_editsOn (path : Path) (changes : List Change) (position : Nat) :
    (editsOn path changes).filter (Edit.startsAt position) =
      (changes.filter (editsAt path position)).filterMap edit? := by
  rw [editsOn, on, List.filter_filterMap, List.filterMap_filter, List.filterMap_filter]
  congr 1
  funext change
  unfold editsAt
  cases change.isOn path with
  | false => rfl
  | true =>
    cases change.edit? with
    | none => rfl
    | some edit => cases hs : edit.startsAt position <;> simp [hs]

variable {path : Path} {planned : List Change}

/-- Plain changes are plain in the order of the cluster. -/
theorem plain_of_sort (plain : ∀ change ∈ on path planned, change.IsPlain) :
    ∀ change ∈ on path (ChangeCluster.sort planned), change.IsPlain := by
  intro change hm
  exact plain change (((ChangeCluster.sort_perm planned).filter (isOn path)).mem_iff.mp hm)

/-- An edit of a plain change has the order of its start. -/
theorem order_of_plain {change : Change} {edit : Edit} (plain : change.IsPlain)
    (h : change.edit? = some edit) : change.order = edit.start.toInt64 := by
  cases change with
  | edit path order action =>
    cases h
    exact plain
  | bundle path order parts => cases h
  | noop path order => cases h

/-- From the last to the first, the edits of a file in a cluster are those generated, and those
of one start stand as they were generated. -/
theorem sameStarts_sort (plain : ∀ change ∈ on path planned, change.IsPlain) :
    Edit.SameStarts (editsOn path (ChangeCluster.sort planned)).reverse (editsOn path planned) := by
  intro position
  have horder : ∀ change ∈ planned, editsAt path position change = true →
      ∃ edit : Edit, change.order = edit.start.toInt64 ∧ edit.start.toNat = position := by
    intro change hm hpicked
    obtain ⟨hon, hstarts⟩ := (Bool.and_eq_true _ _).mp hpicked
    obtain ⟨edit, hedit, hstart⟩ := (Option.any_eq_true _ _).mp hstarts
    have hplain := plain change (List.mem_filter.mpr ⟨hm, hon⟩)
    exact ⟨edit, order_of_plain hplain hedit, beq_iff_eq.mp hstart⟩
  have htied : ∀ first ∈ planned, ∀ second ∈ planned, editsAt path position first = true →
      editsAt path position second = true → first.order = second.order := by
    intro first hfirst second hsecond hpicked hpicked'
    obtain ⟨edit, hfirst', hstart⟩ := horder first hfirst hpicked
    obtain ⟨other, hsecond', hstart'⟩ := horder second hsecond hpicked'
    rw [hfirst', hsecond', UInt64.toNat_inj.mp (hstart.trans hstart'.symm)]
  rw [List.filter_reverse, filter_editsOn, filter_editsOn, ChangeCluster.filter_sort_of_tied htied,
    List.filterMap_reverse, List.reverse_reverse]

/-- Starts below the sign bit are ordered as the orders of their edits. -/
theorem toInt_toInt64 {start : UInt64} (h : start.toNat < 2 ^ 63) :
    start.toInt64.toInt = start.toNat := by
  have hbits : 2 * start.toBitVec.toNat < 2 ^ 64 := by
    rw [UInt64.toNat_toBitVec]
    omega
  rw [Int64.toInt, UInt64.toBitVec_toInt64, BitVec.toInt_eq_toNat_of_lt hbits,
    UInt64.toNat_toBitVec]

/-- The starts of the edits of a file in a cluster fall. -/
theorem editsOn_sort_pairwise (plain : ∀ change ∈ on path planned, change.IsPlain)
    (short : ∀ edit ∈ editsOn path planned, edit.start.toNat < 2 ^ 63) :
    (editsOn path (ChangeCluster.sort planned)).Pairwise fun first second =>
      second.start.toNat ≤ first.start.toNat := by
  have horder : ∀ change ∈ on path (ChangeCluster.sort planned), ∀ edit,
      change.edit? = some edit → change.order.toInt = edit.start.toNat := by
    intro change hm edit hedit
    have hplanned : change ∈ on path planned :=
      ((ChangeCluster.sort_perm planned).filter (isOn path)).mem_iff.mp hm
    have hshort := short edit (List.mem_filterMap.mpr ⟨change, hplanned, hedit⟩)
    rw [order_of_plain (plain change hplanned) hedit, toInt_toInt64 hshort]
  have hfalling := (ChangeCluster.sort_pairwise planned).filter (isOn path)
  rw [editsOn, List.pairwise_filterMap]
  apply hfalling.imp_of_mem
  intro first second hfirst hsecond hle edit hedit other hother
  rw [horder first hfirst edit hedit, horder second hsecond other hother] at hle
  exact Int.ofNat_le.mp hle

/-- The bucket of a file makes of its text what its edits make of it at once. -/
theorem applyAll_on_sort_sole {content : String} {edits : List Edit}
    (plain : ∀ change ∈ on path planned, change.IsPlain)
    (short : byteLength content.toList < 2 ^ 63)
    (compatible : Edit.Compatible content.toList edits)
    (same : Edit.SameStarts (editsOn path planned) edits) :
    applyAll (on path (ChangeCluster.sort planned)) (⟨content⟩ : SoleFile) =
      .ok () ⟨String.ofList (Edit.simultaneous edits content.toList)⟩ := by
  have hsorted := (sameStarts_sort plain).trans same
  have hshort : ∀ edit ∈ editsOn path planned, edit.start.toNat < 2 ^ 63 := by
    intro edit hm
    obtain ⟨before, after, hchars, hlength⟩ :=
      isBoundary_iff.mp (compatible.valid edit (same.mem hm)).start
    rw [hchars, byteLength_append] at short
    omega
  have hrising := List.pairwise_reverse.mpr (editsOn_sort_pairwise plain hshort)
  have hturns := Edit.turnAll_simultaneous (compatible.pairwise_before hsorted hrising)
    (fun edit hm => compatible.valid edit (hsorted.mem hm))
  rw [List.reverse_reverse, Edit.simultaneous, hsorted.simultaneousFrom_eq] at hturns
  exact applyAll_sole_of_turnAll (plain_of_sort plain) hturns

end Change

namespace MemoryHost

variable {host reached : MemoryHost} {path : Path} {content : String}

/-- Changes are applied to a host as to its contents. -/
theorem mirrors_applyAll (changes : List Change) :
    Task.Mirrors (ContentHost.contents : MemoryHost → Contents) (Change.applyAll changes)
      (Change.applyAll changes) :=
  Change.mirrors_applyAll fun _ _ own _ => ContentHost.mirrorsFile own

/-- What is at a path is its sole file. -/
theorem sole_of_content? (held : host.content? path = some content) :
    (ContentHost.contents host).sole path = ⟨content⟩ := by
  rw [content?_eq] at held
  rw [Contents.sole, Contents.text]
  exact congrArg (fun found => SoleFile.mk (Option.getD found "")) held

/-- A file that is there stays there, and holds what is seen of it alone. -/
theorem content?_of_sole {applied : List Change} (held : host.content? path = some content)
    (hreached : Change.applyAll applied host = .ok () reached) {left : String}
    (hleft : (ContentHost.contents reached).sole path = ⟨left⟩) :
    reached.content? path = some left := by
  have hkept : Task.Keeps (fun left : Contents => (left path.components).isSome = true)
      (Change.applyAll applied) :=
    Change.keeps_applyAll fun _ _ own _ => Contents.keepsFile_present own path.components
  rw [content?_eq] at held
  have hpresent := hkept.of_ok ((mirrors_applyAll applied).of_ok hreached)
    (by exact Option.isSome_of_eq_some held)
  obtain ⟨text, hfound⟩ := Option.isSome_iff_exists.mp hpresent
  have htext : (ContentHost.contents reached).text path = left := congrArg SoleFile.text hleft
  rw [Contents.text, hfound] at htext
  rw [content?_eq]
  exact hfound.trans (congrArg some htext)

/-- When some changes have been applied, what is still to be done to a file is done by the other
changes of the file. -/
theorem applyAll_on_rest {applied : List Change} (rest : List Change)
    (hreached : Change.applyAll applied host = .ok () reached) :
    Change.applyAll (Change.on path (applied ++ rest)) ((ContentHost.contents host).sole path) =
      Change.applyAll (Change.on path rest) ((ContentHost.contents reached).sole path) := by
  have hcontents := (mirrors_applyAll applied).of_ok hreached
  have hon : Change.on path (applied ++ rest) = Change.on path applied ++ Change.on path rest := by
    rw [Change.on, Change.on, Change.on, ← List.filter_append]
  rw [hon, Change.applyAll_append_of_ok (Change.applyAll_sole_of_ok hcontents path)]

/-- If the changes of a file can be applied to it, the first of them can be applied to the host. -/
theorem succeeds_of_sole {change : Change} {others : List Change} {file : SoleFile}
    (hown : change.isOn path = true)
    (h : Change.applyAll (Change.on path (change :: others))
      ((ContentHost.contents reached).sole path) = .ok () file) :
    Task.succeeds change.apply reached = true := by
  have hchange : Task.Mirrors (ContentHost.contents : MemoryHost → Contents) change.apply
      change.apply := Change.mirrors_apply fun own _ => ContentHost.mirrorsFile own
  rw [← hchange.succeeds_eq, ← (Change.mirrors_sole hown).succeeds_eq, Task.succeeds]
  rw [Change.on_cons_of_isOn hown, Change.applyAll, Task.bind_apply] at h
  cases hc : change.apply ((ContentHost.contents reached).sole path) with
  | ok _ file => rfl
  | error error file =>
    rw [hc] at h
    cases h

end MemoryHost

namespace ChangeCluster

/-- Offsets into the content of a file stay valid. Let edits of disjoint ranges of the content,
with the orders of their starts, be planned among placeholders and any changes of other files, an
edit that deletes something after those of empty range at its start. Applied in the order of the
cluster, also up to a failure at another file, none of them fails, and when the last of them is
applied the file holds the content with all of them made at once. This holds of whatever else is
planned with the same edits in another order, as long as those of one start keep theirs. -/
theorem applyAll_leaves_edits_made_at_once {host : MemoryHost} {path : Path} {content : String}
    {generated : List Change} (held : host.content? path = some content)
    (short : byteLength content.toList < 2 ^ 63)
    (compatible : Edit.Compatible content.toList (Change.editsOn path generated)) :
    ∀ planned : List Change, (∀ change ∈ Change.on path planned, change.IsPlain) →
      Edit.SameStarts (Change.editsOn path planned) (Change.editsOn path generated) →
      ∀ applied rest reached, (ofChanges planned).changes = applied ++ rest →
        Change.applyAll applied host = .ok () reached →
          (∀ change ∈ rest.head?, change.isOn path = true →
            Task.succeeds change.apply reached = true) ∧
          (Change.on path rest = [] → reached.content? path =
            some (String.ofList
              (Edit.simultaneous (Change.editsOn path generated) content.toList))) := by
  intro planned plain same applied rest reached hsplit hreached
  have hbucket := Change.applyAll_on_sort_sole plain short compatible same
  have hsorted : sort planned = applied ++ rest := hsplit
  rw [hsorted, ← MemoryHost.sole_of_content? held,
    MemoryHost.applyAll_on_rest rest hreached] at hbucket
  refine ⟨?_, ?_⟩
  · intro change hhead hown
    obtain ⟨others, rfl⟩ := List.head?_eq_some_iff.mp hhead
    exact MemoryHost.succeeds_of_sole hown hbucket
  · intro hnone
    rw [hnone] at hbucket
    exact MemoryHost.content?_of_sole held hreached (EStateM.Result.ok.inj hbucket).2

/-- Two texts at one place before a range that is replaced, the removal of a letter, an appended
sign, a placeholder and an edit of another file. -/
def accentPlan : List Change :=
  [.remove ⟨"a"⟩ 0 1, .insert ⟨"b"⟩ 0 "?", .insert ⟨"a"⟩ 3 "X", .insert ⟨"a//"⟩ 3 "Y",
    .replace ⟨"a"⟩ 3 6 "!", .noop (some ⟨"a"⟩) 4, .insert ⟨"a"⟩ 7 "."]

/-- The edits of the accent plan in another order. -/
def accentEdits : List Change :=
  [.insert ⟨"a"⟩ 7 ".", .insert ⟨"a"⟩ 3 "X", .remove ⟨"a"⟩ 0 1, .insert ⟨"a"⟩ 3 "Y",
    .replace ⟨"a"⟩ 3 6 "!"]

/-- A file with a letter of two bytes and one of three. -/
def accentHost : MemoryHost := .withFiles [(⟨"a"⟩, "aé€z")]

theorem sort_accentPlan : sort accentPlan = accentPlan.reverse := sort_of_ascending (by decide)

/-- The accent plan leaves its edits made at once on the file. -/
theorem applyAll_leaves_accentPlan_made_at_once :
    ∃ reached, Change.applyAll (ofChanges accentPlan).changes accentHost = .ok () reached ∧
      reached.content? ⟨"a"⟩ = some "éXY!z." := by
  have hsucceeds : Task.succeeds (Change.applyAll (ofChanges accentPlan).changes) accentHost =
      true := by
    rw [ofChanges, sort_accentPlan]
    decide
  obtain ⟨_, reached, hreached⟩ := Task.succeeds_iff.mp hsucceeds
  have hleaves := @applyAll_leaves_edits_made_at_once accentHost ⟨"a"⟩ "aé€z" accentEdits rfl
    (by decide) ⟨by decide, by decide, by decide⟩ accentPlan (by decide) (by decide)
    (ofChanges accentPlan).changes [] reached (List.append_nil _).symm hreached
  exact ⟨reached, hreached, hleaves.2 rfl⟩

end ChangeCluster

end Scaffold
