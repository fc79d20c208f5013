import Mathlib.Data.List.Induction
import Scaffold.Change.Cluster

/-!
# The order of a cluster

The changes of a cluster are those that were generated, ordered by falling order. The sort is
stable and starts from the reversed list, so among changes of one order the one generated last
comes first.
-/

namespace Scaffold.ChangeCluster

/-- A change goes first if its order is not the lower one. -/
theorem goesFirst_iff {left right : Change} :
    goesFirst left right = true ↔ right.order.toInt ≤ left.order.toInt := by
  rw [goesFirst, decide_eq_true_iff, Int64.le_iff_toInt_le]

/-- What goes first goes before all that come later. -/
theorem goesFirst_trans (first second third : Change) (hfirst : goesFirst first second = true)
    (hsecond : goesFirst second third = true) : goesFirst first third = true := by
  rw [goesFirst_iff] at hfirst hsecond ⊢
  omega

/-- Of two changes, one goes first. -/
theorem goesFirst_total (left right : Change) :
    (goesFirst left right || goesFirst right left) = true := by
  rw [Bool.or_eq_true, goesFirst_iff, goesFirst_iff]
  omega

variable (generated : List Change)

/-- A cluster holds the generated changes, each as often as it was generated. -/
theorem sort_perm : (sort generated).Perm generated :=
  (List.mergeSort_perm _ _).trans (List.reverse_perm generated)

/-- The orders of a cluster fall. -/
theorem sort_pairwise : (sort generated).Pairwise fun first second =>
    second.order.toInt ≤ first.order.toInt := by
  have h := List.pairwise_mergeSort goesFirst_trans goesFirst_total generated.reverse
  exact h.imp goesFirst_iff.mp

/-- Of changes of one order, the one generated last comes first. -/
theorem filter_sort_of_tied {generated : List Change} {picked : Change → Bool}
    (tied : ∀ first ∈ generated, ∀ second ∈ generated, picked first = true →
      picked second = true → first.order = second.order) :
    (sort generated).filter picked = (generated.filter picked).reverse := by
  have hties : (generated.reverse.filter picked).Pairwise fun first second =>
      goesFirst first second = true := by
    apply List.pairwise_of_forall_mem_list
    intro first hfirst second hsecond
    obtain ⟨hm, hp⟩ := List.mem_filter.mp hfirst
    obtain ⟨hm', hp'⟩ := List.mem_filter.mp hsecond
    have horder := tied first (List.mem_reverse.mp hm) second (List.mem_reverse.mp hm') hp hp'
    exact goesFirst_iff.mpr (Int.le_of_eq (congrArg Int64.toInt horder.symm))
  have hkept := List.sublist_mergeSort goesFirst_trans goesFirst_total hties List.filter_sublist
  have hsub := hkept.filter picked
  rw [List.filter_filter] at hsub
  simp only [Bool.and_self] at hsub
  have hlength := ((sort_perm generated).filter picked).length_eq
  rw [← List.filter_reverse]
  refine (hsub.eq_of_length ?_).symm
  rw [List.filter_reverse, List.length_reverse]
  exact hlength.symm

/-- Changes generated in the order of their positions are applied from the last to the first. -/
theorem sort_of_ascending {generated : List Change}
    (h : generated.Pairwise fun first second => first.order.toInt ≤ second.order.toInt) :
    sort generated = generated.reverse := by
  apply List.mergeSort_of_pairwise
  rw [List.pairwise_reverse]
  exact h.imp goesFirst_iff.mpr

/-- Changes of different orders can be sorted in one way only. -/
theorem sort_eq_of_falling {generated sorted : List Change} (same : sorted.Perm generated)
    (falling : sorted.Pairwise fun first second => second.order.toInt < first.order.toInt) :
    sort generated = sorted := by
  have hperm := (sort_perm generated).trans same.symm
  have hne : (sort generated).Pairwise fun first second =>
      first.order.toInt ≠ second.order.toInt :=
    hperm.symm.pairwise (falling.imp fun h => (Int.ne_of_lt h).symm) fun h => h.symm
  have hsorted : (sort generated).Pairwise fun first second =>
      second.order.toInt < first.order.toInt :=
    ((sort_pairwise generated).and hne).imp fun h => by omega
  refine List.Perm.eq_of_pairwise ?_ hsorted falling hperm
  intro first second _ _ hleft hright
  omega

/-- In a list of falling orders, the changes of higher order than a given one come first. -/
theorem filter_append_filter_of_falling {sorted : List Change} (change : Change)
    (falling : sorted.Pairwise fun first second => second.order.toInt ≤ first.order.toInt) :
    (sorted.filter fun other => !goesFirst change other) ++ sorted.filter (goesFirst change) =
      sorted := by
  induction sorted with
  | nil => rfl
  | cons first rest ih =>
    obtain ⟨hfirst, hrest⟩ := List.pairwise_cons.mp falling
    cases hgoes : goesFirst change first with
    | false =>
      rw [List.filter_cons_of_pos (by simp [hgoes]), List.filter_cons_of_neg (by simp [hgoes]),
        List.cons_append, ih hrest]
    | true =>
      have hall : ∀ other ∈ first :: rest, goesFirst change other = true := by
        rw [List.forall_mem_cons]
        refine ⟨hgoes, fun other hm => ?_⟩
        have hle := hfirst other hm
        rw [goesFirst_iff] at hgoes ⊢
        omega
      rw [List.filter_eq_nil_iff.mpr fun other hm => by simp [hall other hm],
        List.filter_eq_self.mpr hall, List.nil_append]

/-- The change generated last stands behind those of higher order and before the others. -/
theorem sort_concat (change : Change) :
    sort (generated ++ [change]) =
      (sort generated).filter (fun other => !goesFirst change other) ++
        change :: (sort generated).filter (goesFirst change) := by
  obtain ⟨higher, others, hconcat, hsort, hhigher⟩ :=
    List.mergeSort_cons goesFirst_trans goesFirst_total change generated.reverse
  rw [← List.reverse_concat] at hconcat
  have hothers : ∀ other ∈ others, goesFirst change other = true := by
    have hpairwise := sort_pairwise (generated ++ [change])
    rw [sort, hconcat] at hpairwise
    have hbehind := (List.pairwise_cons.mp (List.pairwise_append.mp hpairwise).2.1).1
    exact fun other hm => goesFirst_iff.mpr (hbehind other hm)
  rw [sort, hconcat, sort, hsort, List.filter_append, List.filter_append,
    List.filter_eq_self.mpr hhigher, List.filter_eq_nil_iff.mpr fun other hm => by
      simp [hothers other hm],
    List.filter_eq_nil_iff.mpr fun other hm => by simpa using hhigher other hm,
    List.filter_eq_self.mpr hothers, List.append_nil, List.nil_append]

/-- Some of the changes are sorted as they stand among all of them. -/
theorem filter_sort (picked : Change → Bool) :
    (sort generated).filter picked = sort (generated.filter picked) := by
  induction generated using List.reverseRecOn with
  | nil => simp [sort]
  | append_singleton rest change ih =>
    have hcomm : ∀ kind : Change → Bool, ((sort rest).filter kind).filter picked =
        (sort (rest.filter picked)).filter kind := by
      intro kind
      rw [← ih, List.filter_filter, List.filter_filter]
      exact List.filter_congr fun other _ => Bool.and_comm _ _
    rw [sort_concat, List.filter_append, List.filter_append, hcomm]
    cases hp : picked change with
    | true =>
      rw [List.filter_cons_of_pos hp, List.filter_cons_of_pos hp, List.filter_nil, hcomm,
        sort_concat]
    | false =>
      have hsplit := filter_append_filter_of_falling change (sort_pairwise (rest.filter picked))
      rw [List.filter_cons_of_neg (by simp [hp]), List.filter_cons_of_neg (by simp [hp]),
        List.filter_nil, hcomm, hsplit, List.append_nil]

end Scaffold.ChangeCluster
