import Mathlib.Data.List.Forall2

/-!
# Results of several steps

Steps that can fail and follow each other give a result only if each of them does. A list of steps
gives the list of their results.
-/

namespace Scaffold

variable {ε α β : Type}

/-- A step after another gives a result only if both do. -/
theorem exists_of_bind_eq_ok {first : Except ε α} {next : α → Except ε β} {value : β}
    (h : (first >>= next) = .ok value) :
    ∃ middle, first = .ok middle ∧ next middle = .ok value := by
  cases first with
  | error => cases h
  | ok middle => exact ⟨middle, rfl, h⟩

/-- Steps for the items of a list that all give a result give one for each item. -/
theorem forall₂_of_mapM_eq_ok {step : α → Except ε β} {items : List α} {values : List β}
    (h : items.mapM step = .ok values) :
    List.Forall₂ (fun item value => step item = .ok value) items values := by
  induction items generalizing values with
  | nil =>
    cases h
    exact .nil
  | cons item rest ih =>
    rw [List.mapM_cons] at h
    obtain ⟨value, hvalue, h⟩ := exists_of_bind_eq_ok h
    obtain ⟨others, hothers, h⟩ := exists_of_bind_eq_ok h
    cases h
    exact .cons hvalue (ih hothers)

/-- Steps for the items of a list fail with the first one that fails. -/
theorem mapM_eq_error {step : α → Except ε β} {front back : List α} {item : α} {error : ε}
    (hfront : ∀ earlier ∈ front, ∃ value, step earlier = .ok value)
    (hitem : step item = .error error) : (front ++ item :: back).mapM step = .error error := by
  induction front with
  | nil =>
    rw [List.nil_append, List.mapM_cons, hitem]
    rfl
  | cons first rest ih =>
    obtain ⟨⟨value, hfirst⟩, hrest⟩ := List.forall_mem_cons.mp hfront
    rw [List.cons_append, List.mapM_cons, hfirst]
    change (do let values ← (rest ++ item :: back).mapM step; pure (value :: values)) = _
    rw [ih hrest]
    rfl

/-- What the items of a list give, if each of them gives something, comes from one of them. -/
theorem exists_of_mapM_eq_some {step : α → Option β} {items : List α} {values : List β}
    (h : items.mapM step = some values) {value : β} (hvalue : value ∈ values) :
    ∃ item ∈ items, step item = some value := by
  induction items generalizing values with
  | nil =>
    cases h
    cases hvalue
  | cons item rest ih =>
    rw [List.mapM_cons] at h
    obtain ⟨first, hfirst, h⟩ := Option.bind_eq_some_iff.mp h
    obtain ⟨others, hothers, h⟩ := Option.bind_eq_some_iff.mp h
    cases h
    obtain rfl | hlater := List.mem_cons.mp hvalue
    · exact ⟨item, List.mem_cons_self, hfirst⟩
    · obtain ⟨other, hother, hgives⟩ := ih hothers hlater
      exact ⟨other, List.mem_cons_of_mem item hother, hgives⟩

/-- Each item of a list is related to one of those that the list is related to. -/
theorem exists_of_forall₂ {related : α → β → Prop} {items : List α} {values : List β}
    (h : List.Forall₂ related items values) {item : α} (hitem : item ∈ items) :
    ∃ value ∈ values, related item value := by
  induction h with
  | nil => cases hitem
  | @cons first value rest values hfirst _ ih =>
    obtain rfl | hrest := List.mem_cons.mp hitem
    · exact ⟨value, List.mem_cons_self, hfirst⟩
    · obtain ⟨other, hother, hrelated⟩ := ih hrest
      exact ⟨other, List.mem_cons_of_mem value hother, hrelated⟩

end Scaffold
