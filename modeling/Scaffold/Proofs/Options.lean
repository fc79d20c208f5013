import Scaffold.Options

/-!
# The order of options

Setting a value keeps the entries in the strict order of their names, and adds an entry for a new
name. Options are therefore determined by their entries in any order, as long as each name occurs
once among them.
-/

namespace Scaffold.Options

/-- The entries stand in the order of their names, each name once. -/
def Ordered (options : Options) : Prop :=
  options.entries.Pairwise fun first second => first.1 < second.1

variable {name : String} {value : OptionValue} {entries : List (String × OptionValue)}

/-- Behind an insertion there is the new entry and what was there before. -/
theorem mem_insertIn {entry : String × OptionValue}
    (hentry : entry ∈ insertIn name value entries) : entry = (name, value) ∨ entry ∈ entries := by
  fun_induction insertIn name value entries with
  | case1 => exact .inl (List.mem_singleton.mp hentry)
  | case2 key old rest =>
    exact (List.mem_cons.mp hentry).imp id (List.mem_cons_of_mem (key, old))
  | case3 key old rest => exact List.mem_cons.mp hentry
  | case4 key old rest hkey hlater ih =>
    rcases List.mem_cons.mp hentry with rfl | hrest
    · exact .inr List.mem_cons_self
    · exact (ih hrest).imp id (List.mem_cons_of_mem (key, old))

/-- Setting a value keeps the order of the names. -/
theorem pairwise_insertIn (hordered : entries.Pairwise fun first second => first.1 < second.1) :
    (insertIn name value entries).Pairwise fun first second => first.1 < second.1 := by
  fun_induction insertIn name value entries with
  | case1 => exact List.pairwise_singleton _ _
  | case2 key old rest hkey =>
    rw [beq_iff_eq] at hkey
    subst hkey
    exact List.pairwise_cons.mpr (List.pairwise_cons.mp hordered)
  | case3 key old rest hkey hearlier =>
    refine List.pairwise_cons.mpr ⟨fun entry hentry => ?_, hordered⟩
    rcases List.mem_cons.mp hentry with rfl | hrest
    · exact hearlier
    · exact String.lt_trans hearlier ((List.pairwise_cons.mp hordered).1 entry hrest)
  | case4 key old rest hkey hlater ih =>
    obtain ⟨hfirst, hrest⟩ := List.pairwise_cons.mp hordered
    refine List.pairwise_cons.mpr ⟨fun entry hentry => ?_, ih hrest⟩
    rcases mem_insertIn hentry with rfl | hold
    · have hne : key ≠ name := fun h => hkey (beq_iff_eq.mpr h)
      exact Std.lt_of_le_of_ne (String.not_lt.mp hlater) hne
    · exact hfirst entry hold

/-- Setting the value of a new name adds an entry. -/
theorem perm_insertIn (hnew : name ∉ entries.map Prod.fst) :
    (insertIn name value entries).Perm ((name, value) :: entries) := by
  fun_induction insertIn name value entries with
  | case1 => exact .refl _
  | case2 key old rest hkey =>
    exact absurd (beq_iff_eq.mp hkey).symm fun h => hnew (h ▸ List.mem_cons_self)
  | case3 => exact .refl _
  | case4 key old rest hkey hlater ih =>
    have hrest := ih fun hname => hnew (List.mem_cons_of_mem _ hname)
    exact (hrest.cons _).trans (.swap _ _ _)

/-- The value that was set is found. -/
theorem find?_insert_same {options : Options} :
    (options.insert name value).find? name = some value := by
  change (insertIn name value options.entries).lookup name = some value
  fun_induction insertIn name value options.entries with
  | case1 => exact List.lookup_cons_self
  | case2 => exact List.lookup_cons_self
  | case3 => exact List.lookup_cons_self
  | case4 key old rest hkey hlater ih =>
    have hne : (name == key) = false := by
      rw [Bool.eq_false_iff, ne_eq, beq_iff_eq]
      exact fun heq => hkey (beq_iff_eq.mpr heq.symm)
    rw [List.lookup_cons, hne]
    exact ih

/-- Setting a value leaves those of other names. -/
theorem find?_insert_other {options : Options} {other : String} (h : other ≠ name) :
    (options.insert name value).find? other = options.find? other := by
  have hne : (other == name) = false := beq_eq_false_iff_ne.mpr h
  change (insertIn name value options.entries).lookup other = options.entries.lookup other
  fun_induction insertIn name value options.entries with
  | case1 => rw [List.lookup_cons, hne]
  | case2 key old rest hkey =>
    rw [List.lookup_cons, List.lookup_cons, hne, beq_iff_eq.mp hkey, hne]
  | case3 key old rest hkey hearlier => rw [List.lookup_cons, hne]
  | case4 key old rest hkey hlater ih => rw [List.lookup_cons, List.lookup_cons, ih]

/-- Setting values leaves those of other names. -/
theorem find?_insertAll_of_not_mem {options : Options} (h : name ∉ entries.map Prod.fst) :
    (options.insertAll entries).find? name = options.find? name := by
  induction entries generalizing options with
  | nil => rfl
  | cons entry rest ih =>
    obtain ⟨hentry, hrest⟩ := not_or.mp (mt List.mem_cons.mpr h)
    exact (ih hrest).trans (find?_insert_other hentry)

/-- Setting values leaves no name without a value that had one. -/
theorem isSome_find?_insertAll {options : Options} (h : (options.find? name).isSome = true) :
    ((options.insertAll entries).find? name).isSome = true := by
  induction entries generalizing options with
  | nil => exact h
  | cons entry rest ih =>
    refine @ih (options.insert entry.1 entry.2) ?_
    by_cases hname : name = entry.1
    · rw [hname, find?_insert_same]
      rfl
    · rw [find?_insert_other hname]
      exact h

/-- Every entry was there before or was set. -/
theorem mem_insertAll {options : Options} {entry : String × OptionValue}
    (hentry : entry ∈ (options.insertAll entries).entries) :
    entry ∈ entries ∨ entry ∈ options.entries := by
  induction entries generalizing options with
  | nil => exact .inr hentry
  | cons first rest ih =>
    obtain hrest | hfirst := @ih (options.insert first.1 first.2) hentry
    · exact .inl (List.mem_cons_of_mem first hrest)
    · obtain rfl | hold := mem_insertIn hfirst
      · exact .inl List.mem_cons_self
      · exact .inr hold

/-- Setting values one after the other keeps the order of the names. -/
theorem ordered_insertAll {options : Options} (hordered : options.Ordered) :
    (options.insertAll entries).Ordered := by
  induction entries generalizing options with
  | nil => exact hordered
  | cons entry rest ih => exact ih (pairwise_insertIn hordered)

/-- Setting the values of new names adds their entries. -/
theorem perm_insertAll {options : Options} (distinct : (entries.map Prod.fst).Nodup)
    (hnew : ∀ entry ∈ entries, entry.1 ∉ options.entries.map Prod.fst) :
    (options.insertAll entries).entries.Perm (entries ++ options.entries) := by
  induction entries generalizing options with
  | nil => exact .refl _
  | cons entry rest ih =>
    obtain ⟨hentry, hdistinct⟩ := List.nodup_cons.mp distinct
    have hinsert : (options.insert entry.1 entry.2).entries.Perm (entry :: options.entries) :=
      perm_insertIn (hnew entry List.mem_cons_self)
    have hrest := @ih (options.insert entry.1 entry.2) hdistinct ?_
    · exact (hrest.trans (hinsert.append_left rest)).trans List.perm_middle
    · intro other hother hname
      rcases List.mem_cons.mp ((hinsert.map Prod.fst).mem_iff.mp hname) with heq | hold
      · exact hentry (List.mem_map.mpr ⟨other, hother, heq⟩)
      · exact hnew other (List.mem_cons_of_mem entry hother) hold

/-- The names of ordered options are distinct. -/
theorem Ordered.nodup {options : Options} (hordered : options.Ordered) :
    (options.entries.map Prod.fst).Nodup := by
  refine List.pairwise_map.mpr (hordered.imp fun {first second} hlt heq => ?_)
  rw [heq] at hlt
  exact String.lt_irrefl second.1 hlt

/-- Ordered options come back from their entries in any order. -/
theorem Ordered.ofList_eq {options : Options} (hordered : options.Ordered)
    (hperm : entries.Perm options.entries) : ofList entries = options := by
  have distinct : (entries.map Prod.fst).Nodup := (hperm.map Prod.fst).nodup_iff.mpr hordered.nodup
  have hentries := @perm_insertAll entries empty distinct fun _ _ => List.not_mem_nil
  rw [empty, List.append_nil] at hentries
  have hsame : (ofList entries).entries = options.entries := by
    refine (hentries.trans hperm).eq_of_pairwise ?_ (ordered_insertAll .nil) hordered
    exact fun _ _ _ _ hlt hgt => absurd hgt (String.lt_asymm hlt)
  exact congrArg Options.mk hsame

end Scaffold.Options
