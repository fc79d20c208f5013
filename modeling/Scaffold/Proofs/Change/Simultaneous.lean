import Mathlib.Data.List.Pairwise
import Scaffold.Proofs.Change.Revise

/-!
# Edits made at once

What edits make of a text if all of them are meant against the text as it was: a walk over its
characters that puts in the texts of the edits that start at each position and leaves out the
characters that an edit deletes. Edits of disjoint ranges that are made one after the other, from
the last position to the first, come to the same.
-/

namespace Scaffold.Edit

open Text

/-- Whether the edit starts at the position. -/
def startsAt (position : Nat) (edit : Edit) : Bool := edit.start.toNat == position

/-- Whether the edit deletes what stands at the position. -/
def deletesAt (position : Nat) (edit : Edit) : Bool :=
  decide (edit.start.toNat ≤ position) && decide (position < edit.stop.toNat)

/-- The texts that the edits put in at the position, in the order of the edits. -/
def textsAt (edits : List Edit) (position : Nat) : List Char :=
  (edits.filter (startsAt position)).flatMap (·.text.toList)

/-- The edits made at once on the rest of a text from the position on. -/
def simultaneousFrom (edits : List Edit) : Nat → List Char → List Char
  | position, [] => textsAt edits position
  | position, char :: rest =>
    textsAt edits position ++ (if edits.any (deletesAt position) then [] else [char]) ++
      simultaneousFrom edits (position + char.utf8Size) rest

/-- The edits made at once on a text. -/
def simultaneous (edits : List Edit) (chars : List Char) : List Char :=
  simultaneousFrom edits 0 chars

/-- The range of the edit lies in the text and splits no character. -/
structure ValidIn (chars : List Char) (edit : Edit) : Prop where
  /-- The range does not end before it starts. -/
  ordered : edit.start.toNat ≤ edit.stop.toNat
  /-- It starts between characters. -/
  start : IsBoundary chars edit.start.toNat
  /-- It ends between characters. -/
  stop : IsBoundary chars edit.stop.toNat

/-- An edit is valid in a text if its range is one of characters. -/
theorem validIn_iff {chars : List Char} {edit : Edit} :
    edit.ValidIn chars ↔ edit.start.toNat ≤ edit.stop.toNat ∧
      IsBoundary chars edit.start.toNat ∧ IsBoundary chars edit.stop.toNat :=
  ⟨fun h => ⟨h.ordered, h.start, h.stop⟩, fun h => ⟨h.1, h.2.1, h.2.2⟩⟩

instance (chars : List Char) (edit : Edit) : Decidable (edit.ValidIn chars) :=
  decidable_of_iff' _ validIn_iff

/-- The first edit ends before the second one starts. -/
def Before (first second : Edit) : Prop := first.stop.toNat ≤ second.start.toNat

instance (first second : Edit) : Decidable (first.Before second) :=
  inferInstanceAs (Decidable (_ ≤ _))

/-- The ranges of two edits are disjoint; they may touch and be empty. -/
def Apart (first second : Edit) : Prop := first.Before second ∨ second.Before first

instance (first second : Edit) : Decidable (first.Apart second) :=
  inferInstanceAs (Decidable (_ ∨ _))

instance : Std.Symm Apart := ⟨fun _ _ => Or.symm⟩

/-- Generated edits that can be made at once. -/
structure Compatible (chars : List Char) (edits : List Edit) : Prop where
  /-- Their ranges are good. -/
  valid : ∀ edit ∈ edits, edit.ValidIn chars
  /-- Their ranges are disjoint. -/
  disjoint : edits.Pairwise Apart
  /-- An edit that deletes something comes after those of empty range at the same start. -/
  ties : edits.Pairwise fun first second => first.start = second.start →
    first.start < first.stop → second.start < second.stop

/-- Nothing is put in before the first edit. -/
theorem textsAt_eq_nil {edits : List Edit} {position : Nat}
    (h : ∀ edit ∈ edits, position < edit.start.toNat) : textsAt edits position = [] := by
  have hnone : edits.filter (startsAt position) = [] := by
    rw [List.filter_eq_nil_iff]
    intro edit hm hstarts
    have hlater := h edit hm
    have hhere := beq_iff_eq.mp hstarts
    omega
  rw [textsAt, hnone, List.flatMap_nil]

/-- The text of an edit is put in where it starts. -/
theorem textsAt_cons_of_eq {edit : Edit} {rest : List Edit} {position : Nat}
    (h : edit.start.toNat = position) :
    textsAt (edit :: rest) position = edit.text.toList ++ textsAt rest position := by
  have hstarts : startsAt position edit = true := beq_iff_eq.mpr h
  rw [textsAt, List.filter_cons_of_pos hstarts, List.flatMap_cons]
  rfl

/-- Elsewhere, the edit puts nothing in. -/
theorem textsAt_cons_of_ne {edit : Edit} {rest : List Edit} {position : Nat}
    (h : edit.start.toNat ≠ position) : textsAt (edit :: rest) position = textsAt rest position := by
  have hnot : ¬startsAt position edit = true := fun hs => h (beq_iff_eq.mp hs)
  rw [textsAt, List.filter_cons_of_neg hnot]
  rfl

/-- An edit deletes what is in its range. -/
theorem deletesAt_eq_true {edit : Edit} {position : Nat} :
    edit.deletesAt position = true ↔
      edit.start.toNat ≤ position ∧ position < edit.stop.toNat := by
  rw [deletesAt, Bool.and_eq_true, decide_eq_true_iff, decide_eq_true_iff]

/-- Nothing is deleted before the first edit. -/
theorem any_deletesAt_eq_false {edits : List Edit} {position : Nat}
    (h : ∀ edit ∈ edits, position < edit.start.toNat) :
    edits.any (deletesAt position) = false := by
  rw [List.any_eq_false]
  intro edit hm hdeletes
  have hlater := h edit hm
  have hhere := (deletesAt_eq_true.mp hdeletes).1
  omega

/-- No edits leave the text as it is. -/
theorem simultaneousFrom_nil (position : Nat) (chars : List Char) :
    simultaneousFrom [] position chars = chars := by
  induction chars generalizing position with
  | nil => rfl
  | cons char rest ih => rw [simultaneousFrom, ih]; rfl

/-- The characters before the first edit stay. -/
theorem simultaneousFrom_append {edits : List Edit} {position : Nat} {kept rest : List Char}
    (h : ∀ edit ∈ edits, position + byteLength kept ≤ edit.start.toNat) :
    simultaneousFrom edits position (kept ++ rest) =
      kept ++ simultaneousFrom edits (position + byteLength kept) rest := by
  induction kept generalizing position with
  | nil => rfl
  | cons char others ih =>
    have hpos := Char.utf8Size_pos char
    have hlater : ∀ edit ∈ edits, position < edit.start.toNat := by
      intro edit hm
      have hstart := h edit hm
      rw [byteLength] at hstart
      omega
    have hnext : ∀ edit ∈ edits,
        position + char.utf8Size + byteLength others ≤ edit.start.toNat := by
      intro edit hm
      rw [Nat.add_assoc]
      exact h edit hm
    rw [List.cons_append, simultaneousFrom, textsAt_eq_nil hlater, any_deletesAt_eq_false hlater,
      ih hnext, byteLength, Nat.add_assoc]
    rfl

/-- An edit that lies behind the walk does nothing more. -/
theorem simultaneousFrom_cons_of_passed {edit : Edit} {rest : List Edit} {position : Nat}
    (hstart : edit.start.toNat < position) (hstop : edit.stop.toNat ≤ position)
    (chars : List Char) :
    simultaneousFrom (edit :: rest) position chars = simultaneousFrom rest position chars := by
  induction chars generalizing position with
  | nil => exact textsAt_cons_of_ne (Nat.ne_of_lt hstart)
  | cons char others ih =>
    have hpast : edit.deletesAt position = false := by
      rw [← Bool.not_eq_true, deletesAt_eq_true]
      omega
    rw [simultaneousFrom, simultaneousFrom, textsAt_cons_of_ne (Nat.ne_of_lt hstart),
      List.any_cons, hpast, Bool.false_or, ih (by omega) (by omega)]

/-- An edit leaves out the rest of its range. -/
theorem simultaneousFrom_cons_inside {edit : Edit} {rest : List Edit} {position : Nat}
    {deleted after : List Char} (hstart : edit.start.toNat < position)
    (hstop : position + byteLength deleted = edit.stop.toNat)
    (hbefore : ∀ other ∈ rest, edit.Before other) :
    simultaneousFrom (edit :: rest) position (deleted ++ after) =
      simultaneousFrom rest edit.stop.toNat after := by
  induction deleted generalizing position with
  | nil =>
    rw [byteLength, Nat.add_zero] at hstop
    rw [List.nil_append, simultaneousFrom_cons_of_passed hstart (by omega), hstop]
  | cons char others ih =>
    have hpos := Char.utf8Size_pos char
    rw [byteLength] at hstop
    have hlater : ∀ other ∈ rest, position < other.start.toNat := by
      intro other hm
      have hother : edit.stop.toNat ≤ other.start.toNat := hbefore other hm
      omega
    have hdeletes : edit.deletesAt position = true := deletesAt_eq_true.mpr (by omega)
    rw [List.cons_append, simultaneousFrom, textsAt_cons_of_ne (Nat.ne_of_lt hstart),
      textsAt_eq_nil hlater, List.any_cons, hdeletes, Bool.true_or, if_pos rfl,
      ih (by omega) (by omega)]
    rfl

/-- An edit puts its text in the place of its range. -/
theorem simultaneousFrom_cons_at_start {edit : Edit} {rest : List Edit} {deleted after : List Char}
    (hstop : edit.start.toNat + byteLength deleted = edit.stop.toNat)
    (hbefore : ∀ other ∈ rest, edit.Before other) :
    simultaneousFrom (edit :: rest) edit.start.toNat (deleted ++ after) =
      edit.text.toList ++ simultaneousFrom rest edit.stop.toNat after := by
  cases deleted with
  | nil =>
    rw [byteLength, Nat.add_zero] at hstop
    have hnothing : edit.deletesAt edit.start.toNat = false := by
      rw [← Bool.not_eq_true, deletesAt_eq_true]
      omega
    rw [List.nil_append, ← hstop]
    cases after with
    | nil => exact textsAt_cons_of_eq rfl
    | cons char others =>
      have hpos := Char.utf8Size_pos char
      rw [simultaneousFrom, simultaneousFrom, textsAt_cons_of_eq rfl, List.any_cons, hnothing,
        Bool.false_or, simultaneousFrom_cons_of_passed (by omega) (by omega)]
      simp only [List.append_assoc]
  | cons char others =>
    have hpos := Char.utf8Size_pos char
    rw [byteLength] at hstop
    have hlater : ∀ other ∈ rest, edit.start.toNat < other.start.toNat := by
      intro other hm
      have hother : edit.stop.toNat ≤ other.start.toNat := hbefore other hm
      omega
    have hdeletes : edit.deletesAt edit.start.toNat = true := deletesAt_eq_true.mpr (by omega)
    rw [List.cons_append, simultaneousFrom, textsAt_cons_of_eq rfl, textsAt_eq_nil hlater,
      List.any_cons, hdeletes, Bool.true_or, if_pos rfl,
      simultaneousFrom_cons_inside (by omega) (by omega) hbefore]
    simp only [List.append_nil]

/-- The range of an edit behind a part of the text, as a part of the rest of the text. -/
theorem ValidIn.exists_range {edit : Edit} {before after : List Char}
    (h : edit.ValidIn (before ++ after)) (hbehind : byteLength before ≤ edit.start.toNat) :
    ∃ skipped middle last, after = skipped ++ (middle ++ last) ∧
      byteLength (before ++ skipped) = edit.start.toNat ∧
      edit.start.toNat + byteLength middle = edit.stop.toNat := by
  obtain ⟨upto, middle, last, hparts, hstart, hstop⟩ := exists_parts h.ordered h.start h.stop
  have hupto : upto <+: before ++ after := ⟨middle ++ last, by rw [hparts, List.append_assoc]⟩
  obtain ⟨skipped, rfl⟩ := prefix_of_byteLength_le (List.prefix_append before after) hupto
    (by rw [hstart]; exact hbehind)
  refine ⟨skipped, middle, last, ?_, hstart, by rw [← hstart, hstop]⟩
  rw [List.append_assoc, List.append_assoc] at hparts
  exact List.append_cancel_left hparts

/-- Edits of ranges one behind the other, made from the last to the first, come to the same as
made at once. The walk starts behind a part of the text that no edit reaches. -/
theorem turnAll_reverse {edits : List Edit} {before after : List Char}
    (hchain : edits.Pairwise Before) (hvalid : ∀ edit ∈ edits, edit.ValidIn (before ++ after))
    (hbehind : ∀ edit ∈ edits, byteLength before ≤ edit.start.toNat) :
    TurnAll edits.reverse (before ++ after)
      (before ++ simultaneousFrom edits (byteLength before) after) := by
  induction edits generalizing before after with
  | nil =>
    rw [simultaneousFrom_nil]
    rfl
  | cons edit rest ih =>
    obtain ⟨hfirst, hothers⟩ := List.pairwise_cons.mp hchain
    obtain ⟨skipped, middle, last, rfl, hstart, hstop⟩ :=
      (hvalid edit List.mem_cons_self).exists_range (hbehind edit List.mem_cons_self)
    have hparts : before ++ (skipped ++ (middle ++ last)) =
        before ++ skipped ++ middle ++ last := by
      simp only [List.append_assoc]
    have hlater : ∀ other ∈ edit :: rest,
        byteLength before + byteLength skipped ≤ other.start.toNat := by
      rw [← byteLength_append, hstart, List.forall_mem_cons]
      refine ⟨Nat.le_refl _, ?_⟩
      intro other hm
      have hother : edit.stop.toNat ≤ other.start.toNat := hfirst other hm
      omega
    have hlength : byteLength (before ++ skipped ++ middle) = edit.stop.toNat := by
      rw [byteLength_append, hstart, hstop]
    -- The edits behind this one work on what follows its range.
    have hrest := ih hothers
      (fun other hm => by rw [← hparts]; exact hvalid other (List.mem_cons_of_mem _ hm))
      (fun other hm => by rw [hlength]; exact hfirst other hm)
    have hturns : edit.Turns
        (before ++ skipped ++ middle ++ simultaneousFrom rest edit.stop.toNat last)
        (before ++ skipped ++ edit.text.toList ++ simultaneousFrom rest edit.stop.toNat last) :=
      ⟨before ++ skipped, middle, _, rfl, hstart, by rw [hstart, hstop], rfl⟩
    have hwalk : before ++ simultaneousFrom (edit :: rest) (byteLength before)
        (skipped ++ (middle ++ last)) =
        before ++ skipped ++ edit.text.toList ++ simultaneousFrom rest edit.stop.toNat last := by
      rw [simultaneousFrom_append hlater, ← byteLength_append, hstart,
        simultaneousFrom_cons_at_start hstop hfirst]
      simp only [List.append_assoc]
    rw [List.reverse_cons, hparts, hwalk]
    rw [hlength] at hrest
    exact turnAll_append hrest ⟨_, hturns, rfl⟩

/-- Edits of which each is before the next make from back to front what they make at once. -/
theorem turnAll_simultaneous {edits : List Edit} {chars : List Char}
    (hchain : edits.Pairwise Before) (hvalid : ∀ edit ∈ edits, edit.ValidIn chars) :
    TurnAll edits.reverse chars (simultaneous edits chars) :=
  @turnAll_reverse edits [] chars hchain hvalid fun _ _ => Nat.zero_le _

/-- Two lists hold the same edits, and those that start together in the same order. -/
def SameStarts (left right : List Edit) : Prop :=
  ∀ position, left.filter (startsAt position) = right.filter (startsAt position)

theorem SameStarts.trans {first second third : List Edit} (hleft : SameStarts first second)
    (hright : SameStarts second third) : SameStarts first third :=
  fun position => (hleft position).trans (hright position)

/-- An edit of one list is in the other one. -/
theorem SameStarts.mem {left right : List Edit} (h : SameStarts left right) {edit : Edit}
    (hm : edit ∈ left) : edit ∈ right := by
  have hpicked : edit ∈ left.filter (startsAt edit.start.toNat) :=
    List.mem_filter.mpr ⟨hm, beq_self_eq_true _⟩
  rw [h] at hpicked
  exact (List.mem_filter.mp hpicked).1

/-- Only the positions at which an edit starts have to be compared. -/
theorem sameStarts_iff {left right : List Edit} :
    SameStarts left right ↔ ∀ edit ∈ left ++ right,
      left.filter (startsAt edit.start.toNat) = right.filter (startsAt edit.start.toNat) := by
  constructor
  · intro h edit _
    exact h edit.start.toNat
  · intro h position
    by_cases hstarts : ∃ edit ∈ left ++ right, edit.start.toNat = position
    · obtain ⟨edit, hm, rfl⟩ := hstarts
      exact h edit hm
    · have hnone : ∀ edit ∈ left ++ right, ¬startsAt position edit = true :=
        fun edit hm hs => hstarts ⟨edit, hm, beq_iff_eq.mp hs⟩
      rw [List.forall_mem_append] at hnone
      rw [List.filter_eq_nil_iff.mpr hnone.1, List.filter_eq_nil_iff.mpr hnone.2]

instance (left right : List Edit) : Decidable (SameStarts left right) :=
  decidable_of_iff' _ sameStarts_iff

/-- The order of edits that start apart makes no difference to what they make of a text. -/
theorem SameStarts.simultaneousFrom_eq {left right : List Edit} (h : SameStarts left right)
    (position : Nat) (chars : List Char) :
    simultaneousFrom left position chars = simultaneousFrom right position chars := by
  have htexts : ∀ place, textsAt left place = textsAt right place := by
    intro place
    rw [textsAt, h, textsAt]
  have hdeletes : ∀ place, left.any (deletesAt place) = right.any (deletesAt place) := by
    intro place
    have hback : SameStarts right left := fun position => (h position).symm
    rw [Bool.eq_iff_iff, List.any_eq_true, List.any_eq_true]
    exact ⟨fun ⟨edit, hm, hd⟩ => ⟨edit, h.mem hm, hd⟩,
      fun ⟨edit, hm, hd⟩ => ⟨edit, hback.mem hm, hd⟩⟩
  induction chars generalizing position with
  | nil => exact htexts position
  | cons char rest ih => rw [simultaneousFrom, simultaneousFrom, htexts, hdeletes, ih]

/-- Compatible edits in the order of their starts lie one behind the other. -/
theorem Compatible.pairwise_before {chars : List Char} {generated sorted : List Edit}
    (compatible : Compatible chars generated) (h : SameStarts sorted generated)
    (hsorted : sorted.Pairwise fun first second => first.start.toNat ≤ second.start.toNat) :
    sorted.Pairwise Before := by
  rw [List.pairwise_iff_forall_sublist] at hsorted ⊢
  intro first second hsub
  have hle := hsorted hsub
  have hfirst : first ∈ generated := h.mem (hsub.subset List.mem_cons_self)
  have hsecond : second ∈ generated :=
    h.mem (hsub.subset (List.mem_cons_of_mem _ List.mem_cons_self))
  have hordered := (compatible.valid second hsecond).ordered
  unfold Before
  by_cases hstart : first.start.toNat = second.start.toNat
  · -- Edits of one start stand as they were generated.
    have hpicked := hsub.filter (startsAt second.start.toNat)
    have hboth : [first, second].filter (startsAt second.start.toNat) = [first, second] := by
      rw [List.filter_eq_self, List.forall_mem_cons, List.forall_mem_singleton]
      exact ⟨beq_iff_eq.mpr hstart, beq_self_eq_true _⟩
    rw [hboth, h] at hpicked
    have hgenerated := hpicked.trans List.filter_sublist
    have hdisjoint := List.pairwise_iff_forall_sublist.mp compatible.disjoint hgenerated
    have hties := List.pairwise_iff_forall_sublist.mp compatible.ties hgenerated
      (UInt64.toNat_inj.mp hstart)
    rw [UInt64.lt_iff_toNat_lt, UInt64.lt_iff_toNat_lt] at hties
    unfold Apart Before at hdisjoint
    omega
  · have hne : first ≠ second := fun he => hstart (congrArg (·.start.toNat) he)
    have hdisjoint := compatible.disjoint.forall hfirst hsecond hne
    unfold Apart Before at hdisjoint
    omega

end Scaffold.Edit
