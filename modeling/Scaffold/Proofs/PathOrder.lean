import Mathlib.Order.Compare
import Scaffold.Proofs.PathMap

/-!
# The order of paths

Components are ordered by kind and then by name, paths by their components. The order is total,
and only paths of equal components are equal in it, so that paths which differ stand in one
strictly ascending order.
-/

namespace Scaffold

namespace PathComponent

/-- The text by which components of one kind are compared. -/
def sortText : PathComponent → String
  | .name text => text
  | _ => ""

/-- Components are compared by kind, and then by name. -/
theorem compare_eq_compareLex :
    PathComponent.compare = compareLex (compareOn rank) (compareOn sortText) := by
  funext left right
  cases left <;> cases right <;> rfl

instance : Std.TransCmp PathComponent.compare := by
  rw [compare_eq_compareLex]
  infer_instance

instance : Std.LawfulEqCmp PathComponent.compare where
  eq_of_compare {left right} h := by
    cases left with
    | name text =>
      cases right with
      | name other =>
        have htext : Ord.compare text other = .eq := h
        rw [Std.LawfulEqOrd.compare_eq_iff_eq.mp htext]
      | _ => cases h
    | _ => cases right <;> first | rfl | cases h

end PathComponent

namespace Path

/-- Components are compared from the first to the last. -/
theorem compareComponents_eq_compareLex :
    compareComponents = List.compareLex PathComponent.compare := by
  funext left right
  induction left generalizing right with
  | nil => cases right <;> rfl
  | cons first rest ih =>
    cases right with
    | nil => rfl
    | cons other others => rw [compareComponents, ih, List.compareLex_cons_cons]

instance : Std.TransCmp compareComponents := by
  rw [compareComponents_eq_compareLex]
  infer_instance

instance : Std.LawfulEqCmp compareComponents := by
  rw [compareComponents_eq_compareLex]
  infer_instance

/-- Paths are equal in the order exactly if they are the same path. -/
theorem compare_eq_iff {left right : Path} :
    left.compare right = .eq ↔ left.same right = true := by
  rw [same_iff]
  exact @Std.LawfulEqCmp.compare_eq_iff_eq _ compareComponents _ left.components right.components

/-- The order of paths is transitive. -/
theorem isLE_compare_trans {first second third : Path} (h : (first.compare second).isLE = true)
    (hnext : (second.compare third).isLE = true) : (first.compare third).isLE = true :=
  have htrans := @Std.TransCmp.isLE_trans _ compareComponents _ first.components second.components
    third.components
  htrans h hnext

/-- Of two paths, one comes first. -/
theorem isLE_compare_total (left right : Path) :
    ((left.compare right).isLE || (right.compare left).isLE) = true := by
  have hswap : right.compare left = (left.compare right).swap :=
    @Std.OrientedCmp.eq_swap _ compareComponents _ right.components left.components
  rw [hswap]
  cases left.compare right <;> rfl

/-- Paths of which no two are the same stand strictly ascending once they are sorted. -/
theorem pairwise_mergeSort {paths : List Path} (h : (paths.map components).Nodup) :
    (paths.mergeSort fun left right => (left.compare right).isLE).Pairwise
      fun left right => left.compare right = .lt := by
  have hsorted := @List.pairwise_mergeSort Path (fun left right => (left.compare right).isLE)
    (fun _ _ _ => isLE_compare_trans) isLE_compare_total paths
  have hperm := List.mergeSort_perm paths fun left right => (left.compare right).isLE
  have hdistinct : (paths.mergeSort fun left right => (left.compare right).isLE).Pairwise
      fun left right => left.components ≠ right.components :=
    List.pairwise_map.mp ((hperm.map components).nodup_iff.mpr h)
  refine (hsorted.and hdistinct).imp fun {left right} ⟨hle, hne⟩ => ?_
  cases hc : left.compare right with
  | lt => rfl
  | eq => exact absurd (same_iff.mp (compare_eq_iff.mp hc)) hne
  | gt =>
    rw [hc] at hle
    cases hle

end Path

end Scaffold
