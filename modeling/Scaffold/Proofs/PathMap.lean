import Mathlib.Logic.Function.Basic
import Scaffold.Path

/-!
# Maps under components

Paths of equal components are the same path, so a map of paths is a map of component lists. Its
keys are those spellings that came first, each path once.
-/

namespace Scaffold

namespace Path

/-- Paths lead to the same file if they have the same components. -/
theorem same_iff {left right : Path} :
    left.same right = true ↔ left.components = right.components := by
  simp only [same, beq_iff_eq]

theorem same_self (path : Path) : path.same path = true := same_iff.mpr rfl

theorem same_comm (left right : Path) : left.same right = right.same left := by
  rw [Bool.eq_iff_iff, same_iff, same_iff]
  exact eq_comm

end Path

namespace PathMap

variable {α : Type}

/-- The value under components, among entries. -/
def atIn? (components : List PathComponent) : List (Path × α) → Option α
  | [] => none
  | (key, value) :: rest =>
    if key.components = components then some value else atIn? components rest

/-- The value under components. -/
def at? (map : PathMap α) (components : List PathComponent) : Option α :=
  atIn? components map.entries

/-- What is found at a path is what is at its components. -/
theorem findIn?_eq_atIn? (path : Path) (entries : List (Path × α)) :
    findIn? path entries = atIn? path.components entries := by
  induction entries with
  | nil => rfl
  | cons entry rest ih =>
    obtain ⟨key, value⟩ := entry
    simp only [findIn?, atIn?, Path.same_iff, ih]

/-- A path is looked up by its components. -/
theorem find?_eq_at? (map : PathMap α) (path : Path) : map.find? path = map.at? path.components :=
  findIn?_eq_atIn? path map.entries

theorem contains_eq (map : PathMap α) (path : Path) :
    map.contains path = (map.at? path.components).isSome := by
  rw [contains, find?_eq_at?]

/-- It does not matter how a path is spelled. -/
theorem find?_congr (map : PathMap α) {left right : Path} (h : left.same right = true) :
    map.find? left = map.find? right := by
  rw [find?_eq_at?, find?_eq_at?, Path.same_iff.mp h]

theorem find?_empty (path : Path) : (PathMap.empty : PathMap α).find? path = none := rfl

/-- What is inserted is at its path, and nothing else changes. -/
theorem atIn?_insertIn (path : Path) (value : α) (entries : List (Path × α))
    (components : List PathComponent) :
    atIn? components (insertIn path value entries) =
      if components = path.components then some value else atIn? components entries := by
  induction entries with
  | nil => simp only [insertIn, atIn?, eq_comm]
  | cons entry rest ih =>
    obtain ⟨key, old⟩ := entry
    simp only [insertIn, Path.same_iff]
    by_cases hk : key.components = path.components
    · rw [if_pos hk]
      simp only [atIn?, hk]
      by_cases hc : components = path.components
      · rw [if_pos hc, if_pos hc.symm]
      · rw [if_neg hc, if_neg (Ne.symm hc), if_neg (Ne.symm hc)]
    · rw [if_neg hk]
      simp only [atIn?, ih]
      by_cases hc : key.components = components
      · have hn : components ≠ path.components := fun he => hk (hc.trans he)
        rw [if_pos hc, if_neg hn, if_pos hc]
      · rw [if_neg hc, if_neg hc]

/-- Setting an entry changes the map at the components of its path only. -/
theorem at?_insert (map : PathMap α) (path : Path) (value : α) :
    (map.insert path value).at? = Function.update map.at? path.components (some value) := by
  funext components
  rw [Function.update_apply]
  exact atIn?_insertIn path value map.entries components

/-- What is inserted is found. -/
theorem find?_insert_same (map : PathMap α) {path other : Path} (value : α)
    (h : path.same other = true) : (map.insert path value).find? other = some value := by
  rw [find?_eq_at?, at?_insert, ← Path.same_iff.mp h, Function.update_self]

/-- Whatever else there is, is found as before. -/
theorem find?_insert_other (map : PathMap α) {path other : Path} (value : α)
    (h : path.same other = false) : (map.insert path value).find? other = map.find? other := by
  have hn : other.components ≠ path.components := by
    intro he
    rw [Path.same_iff.mpr he.symm] at h
    cases h
  rw [find?_eq_at?, find?_eq_at?, at?_insert, Function.update_of_ne hn]

/-- There is something at the components of a key. -/
theorem atIn?_isSome (components : List PathComponent) (entries : List (Path × α)) :
    (atIn? components entries).isSome = true ↔
      ∃ key ∈ entries.map Prod.fst, key.components = components := by
  induction entries with
  | nil => simp [atIn?]
  | cons entry rest ih =>
    obtain ⟨key, value⟩ := entry
    by_cases hk : key.components = components
    · simp [atIn?, hk]
    · simp [atIn?, hk, ih]

/-- The components with a value are those of the keys. -/
theorem at?_isSome (map : PathMap α) (components : List PathComponent) :
    (map.at? components).isSome = true ↔ ∃ key ∈ map.keys, key.components = components :=
  atIn?_isSome components map.entries

/-- Entries that hold a value are entries of the map. -/
theorem exists_mem_of_at? {map : PathMap α} {components : List PathComponent} {value : α}
    (h : map.at? components = some value) :
    ∃ key, (key, value) ∈ map.entries ∧ key.components = components := by
  obtain ⟨entries⟩ := map
  change atIn? components entries = some value at h
  induction entries with
  | nil => cases h
  | cons entry rest ih =>
    obtain ⟨key, held⟩ := entry
    by_cases hk : key.components = components
    · rw [atIn?, if_pos hk] at h
      cases h
      exact ⟨key, List.mem_cons_self, hk⟩
    · rw [atIn?, if_neg hk] at h
      obtain ⟨other, hm, hc⟩ := ih h
      exact ⟨other, List.mem_cons_of_mem _ hm, hc⟩

/-- No path has two entries. -/
def Distinct (map : PathMap α) : Prop := (map.keys.map Path.components).Nodup

/-- An entry is at the components of its key. -/
theorem at?_of_mem {map : PathMap α} (distinct : map.Distinct) {key : Path} {value : α}
    (h : (key, value) ∈ map.entries) : map.at? key.components = some value := by
  obtain ⟨entries⟩ := map
  unfold Distinct keys at distinct
  change atIn? key.components entries = some value
  induction entries with
  | nil => cases h
  | cons entry rest ih =>
    obtain ⟨first, held⟩ := entry
    simp only [List.map_cons, List.nodup_cons] at distinct
    obtain hhead | hrest := List.mem_cons.mp h
    · cases hhead
      rw [atIn?, if_pos rfl]
    · have hne : first.components ≠ key.components := by
        intro hc
        rw [hc] at distinct
        exact distinct.1 (List.mem_map_of_mem (List.mem_map_of_mem hrest))
      rw [atIn?, if_neg hne]
      exact ih distinct.2 hrest

/-- The paths with entries are those before and the one that was set. -/
theorem mem_keys_insertIn {path key : Path} {value : α} {entries : List (Path × α)}
    (h : key ∈ (insertIn path value entries).map Prod.fst) :
    key = path ∨ key ∈ entries.map Prod.fst := by
  induction entries with
  | nil =>
    rw [insertIn, List.map_cons, List.map_nil, List.mem_singleton] at h
    exact .inl h
  | cons entry rest ih =>
    obtain ⟨first, held⟩ := entry
    rw [insertIn] at h
    split at h
    · exact .inr h
    · obtain hhead | hrest := List.mem_cons.mp h
      · exact .inr (List.mem_cons.mpr (.inl hhead))
      · exact (ih hrest).imp id (List.mem_cons_of_mem _)

/-- Keys stay distinct when something is inserted. -/
theorem distinct_insert {map : PathMap α} (distinct : map.Distinct) (path : Path) (value : α) :
    (map.insert path value).Distinct := by
  obtain ⟨entries⟩ := map
  unfold Distinct keys insert at *
  simp only at *
  induction entries with
  | nil => exact List.pairwise_singleton _ _
  | cons entry rest ih =>
    obtain ⟨first, held⟩ := entry
    have hdistinct := distinct
    simp only [List.map_cons, List.nodup_cons] at distinct
    rw [insertIn]
    split
    · exact hdistinct
    · next hother =>
      simp only [List.map_cons, List.nodup_cons]
      refine ⟨fun hm => ?_, ih distinct.2⟩
      obtain ⟨key, hkey, hc⟩ := List.mem_map.mp hm
      obtain rfl | hold := mem_keys_insertIn hkey
      · exact hother (Path.same_iff.mpr hc.symm)
      · exact distinct.1 (List.mem_map.mpr ⟨key, hold, hc⟩)

/-- A map of pairs whose values follow from the components of their paths. -/
theorem at?_ofList {value? : List PathComponent → Option α} {pairs : List (Path × α)}
    (h : ∀ pair ∈ pairs, value? pair.1.components = some pair.2) (components : List PathComponent) :
    (ofList pairs).at? components =
      if ∃ pair ∈ pairs, pair.1.components = components then value? components else none := by
  have hfold : ∀ map : PathMap α,
      (pairs.foldl (fun map pair => map.insert pair.1 pair.2) map).at? components =
        if ∃ pair ∈ pairs, pair.1.components = components then value? components
        else map.at? components := by
    induction pairs with
    | nil => intro map; simp
    | cons pair rest ih =>
      obtain ⟨hfirst, hrest⟩ := List.forall_mem_cons.mp h
      intro map
      rw [List.foldl_cons, ih hrest, at?_insert, Function.update_apply]
      by_cases hc : components = pair.1.components
      · subst hc
        simp [hfirst]
      · simp only [hc, if_false, List.mem_cons, exists_eq_or_imp, Ne.symm hc, false_or]
  exact hfold PathMap.empty

end PathMap

end Scaffold
