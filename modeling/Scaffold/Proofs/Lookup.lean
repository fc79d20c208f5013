import Mathlib.Data.List.Nodup

/-!
# Items with distinct keys

Among items with distinct keys each one is found by its key, wherever it stands.
-/

namespace Scaffold

/-- Items with distinct keys are found by their keys. -/
theorem find?_of_nodup {α : Type} {key : α → String} {items : List α}
    (distinct : (items.map key).Nodup) {item : α} (hitem : item ∈ items) :
    items.find? (key · == key item) = some item := by
  induction items with
  | nil => exact nomatch hitem
  | cons first rest ih =>
    obtain ⟨hfirst, hrest⟩ := List.nodup_cons.mp distinct
    rcases List.mem_cons.mp hitem with rfl | hitem
    · exact List.find?_cons_of_pos (beq_self_eq_true _)
    · have hne : (key first == key item) = false := by
        rw [beq_eq_false_iff_ne]
        exact fun heq => hfirst (heq ▸ List.mem_map_of_mem hitem)
      rw [List.find?_cons, hne]
      exact ih hrest hitem

section Entries

variable {α : Type} {entries order : List (String × α)} {key : String} {value : α}

/-- What is looked up is an entry. -/
theorem mem_of_lookup (h : entries.lookup key = some value) : (key, value) ∈ entries := by
  obtain ⟨front, back, rfl, -⟩ := List.lookup_eq_some_iff.mp h
  exact List.mem_append_right front List.mem_cons_self

/-- A key without an entry is looked up in vain. -/
theorem lookup_eq_none_of_notMem (h : key ∉ entries.map Prod.fst) : entries.lookup key = none := by
  rw [List.lookup_eq_none_iff]
  intro entry hentry
  rw [bne_iff_ne]
  rintro rfl
  exact h (List.mem_map_of_mem hentry)

/-- An entry is looked up by its key. -/
theorem lookup_of_mem (distinct : (entries.map Prod.fst).Nodup) (h : (key, value) ∈ entries) :
    entries.lookup key = some value := by
  induction entries with
  | nil => cases h
  | cons entry rest ih =>
    rw [List.map_cons, List.nodup_cons] at distinct
    obtain hhere | hlater := List.mem_cons.mp h
    · rw [← hhere, List.lookup_cons_self]
    · have hne : key ≠ entry.1 := fun hsame =>
        distinct.1 (hsame ▸ List.mem_map_of_mem hlater)
      rw [List.lookup_cons, beq_false_of_ne hne]
      exact ih distinct.2 hlater

/-- Among distinct keys it does not matter where a key stands. -/
theorem lookup_perm (distinct : (entries.map Prod.fst).Nodup) (horder : order.Perm entries)
    (key : String) : order.lookup key = entries.lookup key := by
  have hdistinct : (order.map Prod.fst).Nodup := (horder.map Prod.fst).nodup_iff.mpr distinct
  refine Option.ext fun value => ⟨fun h => ?_, fun h => ?_⟩
  · exact lookup_of_mem distinct (horder.subset (mem_of_lookup h))
  · exact lookup_of_mem hdistinct (horder.symm.subset (mem_of_lookup h))

/-- Values can be changed before or after they are looked up. -/
theorem lookup_map {β : Type} (change : α → β) (key : String) :
    (entries.map fun entry => (entry.1, change entry.2)).lookup key =
      (entries.lookup key).map change := by
  induction entries with
  | nil => rfl
  | cons entry rest ih =>
    rw [List.map_cons, List.lookup_cons, List.lookup_cons, ih]
    cases key == entry.1 <;> rfl

end Entries

section Values

variable {ι α : Type} {items : List ι} {key : ι → String} {value? : ι → Option α}

/-- The keys of the items that have a value, in their order. -/
theorem map_fst_filterMap :
    (items.filterMap fun item => (value? item).map (key item, ·)).map Prod.fst =
      (items.filter fun item => (value? item).isSome).map key := by
  induction items with
  | nil => rfl
  | cons item rest ih => cases hvalue : value? item <;> simp [hvalue, ih]

/-- The keys of items with values are distinct if those of all items are. -/
theorem nodup_map_fst_filterMap (distinct : (items.map key).Nodup) :
    ((items.filterMap fun item => (value? item).map (key item, ·)).map Prod.fst).Nodup := by
  rw [map_fst_filterMap]
  exact distinct.sublist (List.filter_sublist.map key)

/-- The value of an item is looked up by its key. -/
theorem lookup_filterMap (distinct : (items.map key).Nodup) {item : ι} (hitem : item ∈ items) :
    (items.filterMap fun item => (value? item).map (key item, ·)).lookup (key item) =
      value? item := by
  cases hvalue : value? item with
  | some value =>
    refine lookup_of_mem (nodup_map_fst_filterMap distinct) (List.mem_filterMap.mpr ?_)
    exact ⟨item, hitem, by rw [hvalue]; rfl⟩
  | none =>
    refine lookup_eq_none_of_notMem fun hkey => ?_
    rw [map_fst_filterMap] at hkey
    obtain ⟨other, hother, hsame⟩ := List.mem_map.mp hkey
    obtain ⟨hother, hsome⟩ := List.mem_filter.mp hother
    obtain rfl := List.inj_on_of_nodup_map distinct hother hitem hsame
    rw [hvalue] at hsome
    cases hsome

/-- A key of no item is looked up in vain. -/
theorem lookup_filterMap_of_notMem {name : String} (h : name ∉ items.map key) :
    (items.filterMap fun item => (value? item).map (key item, ·)).lookup name = none := by
  refine lookup_eq_none_of_notMem fun hname => h ?_
  rw [map_fst_filterMap] at hname
  exact (List.filter_sublist.map key).subset hname

end Values

end Scaffold
