import Scaffold.Proofs.Lookup
import Scaffold.Proofs.Template.Placeholders

/-!
# Passes over placeholders

A pass over a text gives a value to every placeholder of its names that has none yet. Where
placeholders are kept apart, no token occurs in literals, in values that were put in earlier or
across their ends. So passes one after the other do what one pass with all values does.
-/

namespace Scaffold

open Text

section Slots

variable {slots : List Slot} {values : String → Option String} {name : String}

/-- A slot is spelled before the text behind it and the other slots. -/
theorem spelled_cons (values : String → Option String) (slot : Slot) (slots : List Slot) :
    spelled values (slot :: slots) =
      (slot.shown values).toList ++ (slot.literal ++ spelled values slots) :=
  List.append_assoc ..

theorem Slot.shown_of_some {slot : Slot} {value : String} (h : values slot.name = some value) :
    slot.shown values = value := by
  rw [shown, h, Option.getD_some]

theorem Slot.shown_of_none {slot : Slot} (h : values slot.name = none) :
    slot.shown values = placeholderToken slot.name := by
  rw [shown, h, Option.getD_none]

/-- What stands behind a separated slot is guarded. -/
theorem AreSeparated.isGuarded {slot : Slot} (h : AreSeparated (slot :: slots)) :
    IsGuarded (slot.literal ++ spelled values slots) := by
  refine isGuarded_append (h.literals slot List.mem_cons_self) ?_
  cases slots with
  | nil => exact .inl rfl
  | cons second others => exact .inr (List.isChain_cons_cons.mp h.apart).1

/-- Separated slots stay so without the first one. -/
theorem AreSeparated.tail {slot : Slot} (h : AreSeparated (slot :: slots)) :
    AreSeparated slots where
  names other hother := h.names other (List.mem_cons_of_mem slot hother)
  literals other hother := h.literals other (List.mem_cons_of_mem slot hother)
  apart := h.apart.of_cons

/-- The values of the placeholders have underscores only inside and single. -/
def AreLoose (values : String → Option String) (slots : List Slot) : Prop :=
  ∀ slot ∈ slots, ∀ value ∈ values slot.name, IsLoose value.toList

/-- No token starts in a literal, whatever follows it. -/
theorem AreSeparated.bare_literal (h : AreSeparated slots) (hvalues : AreLoose values slots)
    (hname : IsPlaceholderName name) {literal : List Char} (hliteral : ¬['_', '_'] <:+: literal) :
    Bare (placeholderToken name).toList literal (spelled values slots) := by
  -- Only an underscore at the end of the literal could open a token, with what follows it.
  have hnot : ¬(placeholderToken name).toList <+: '_' :: spelled values slots := by
    cases slots with
    | nil =>
      rw [toList_placeholderToken]
      intro hstarts
      exact List.cons_ne_nil _ _ (List.prefix_nil.mp (List.cons_prefix_cons.mp hstarts).2)
    | cons slot slots =>
      rw [spelled_cons]
      cases hvalue : values slot.name with
      | none =>
        rw [Slot.shown_of_none hvalue]
        exact hname.not_starts_early slot.name _
      | some value =>
        rw [Slot.shown_of_some hvalue]
        have hloose := hvalues slot List.mem_cons_self value hvalue
        by_cases hempty : value.toList = []
        · rw [hempty]
          exact h.isGuarded.not_starts hname (List.prefix_append ['_'] ['_'])
        · rw [toList_placeholderToken]
          exact hloose.not_starts_before hempty
  rw [toList_placeholderToken] at hnot ⊢
  exact bare_of_single hliteral fun _ => hnot

end Slots

section Passes

variable {pairs : List (String × String)} {slots : List Slot} {values : String → Option String}

/-- The pairs with the tokens of their names. -/
def tokenPairs (pairs : List (String × String)) : List (String × String) :=
  pairs.map fun pair => (placeholderToken pair.1, pair.2)

/-- Tokens and values as characters. -/
def tokenChars (pairs : List (String × String)) : List (List Char × List Char) :=
  pairs.map fun pair => ((placeholderToken pair.1).toList, pair.2.toList)

/-- Of the tokens of pairs, the one of the name looked up stands at a token. -/
theorem find?_starting (hpairs : ∀ pair ∈ pairs, IsPlaceholderName pair.1) {name : String}
    (hname : IsPlaceholderName name) (rest : List Char) :
    ((tokenChars pairs).find? fun pair =>
        pair.1.isPrefixOf ((placeholderToken name).toList ++ rest)) =
      (pairs.lookup name).map fun value => ((placeholderToken name).toList, value.toList) := by
  induction pairs with
  | nil => rfl
  | cons pair pairs ih =>
    obtain ⟨hpair, hothers⟩ := List.forall_mem_cons.mp hpairs
    obtain ⟨other, value⟩ := pair
    rw [tokenChars, List.map_cons, List.lookup_cons]
    by_cases hsame : name = other
    · subst hsame
      have hstarts : (placeholderToken name).toList.isPrefixOf
          ((placeholderToken name).toList ++ rest) = true :=
        List.isPrefixOf_iff_prefix.mpr (List.prefix_append _ rest)
      rw [List.find?, hstarts, beq_self_eq_true]
      rfl
    · have hnot : (placeholderToken other).toList.isPrefixOf
          ((placeholderToken name).toList ++ rest) = false := by
        rw [← Bool.not_eq_true, List.isPrefixOf_iff_prefix]
        exact fun hstarts => hsame (hpair.eq_of_starts hname hstarts).symm
      rw [List.find?, hnot, beq_false_of_ne hsame]
      exact ih hothers

/-- One pass over placeholders gives a value to each that has none yet. -/
theorem AreSeparated.substituteTogether_spelled (h : AreSeparated slots)
    (hpairs : ∀ pair ∈ pairs, IsPlaceholderName pair.1) (hvalues : AreLoose values slots) :
    substituteTogether (tokenChars pairs) 0 (spelled values slots) =
      spelled (fun name => (values name).or (pairs.lookup name)) slots := by
  induction slots with
  | nil => rfl
  | cons slot slots ih =>
    obtain ⟨hvalue, hlater⟩ := List.forall_mem_cons.mp hvalues
    have hname := h.names slot List.mem_cons_self
    have hliteral : ∀ pair ∈ tokenChars pairs,
        Bare pair.1 slot.literal (spelled values slots) :=
      List.forall_mem_map.mpr fun pair hpair =>
        h.tail.bare_literal hlater (hpairs pair hpair) (h.literals slot List.mem_cons_self)
    rw [spelled_cons, spelled_cons, ← ih h.tail hlater, ← substituteTogether_append hliteral]
    -- An earlier value is passed over; a token is found under its own name or under none.
    cases hshown : values slot.name with
    | some value =>
      rw [Slot.shown_of_some hshown, Slot.shown_of_some (by rw [hshown, Option.some_or])]
      refine substituteTogether_append (List.forall_mem_map.mpr fun pair _ => ?_)
      rw [toList_placeholderToken]
      exact (hvalue value hshown).bare
    | none =>
      rw [Slot.shown_of_none hshown]
      cases hlookup : pairs.lookup slot.name with
      | some value =>
        rw [Slot.shown_of_some (by rw [hshown, Option.none_or, hlookup])]
        refine substituteTogether_token ?_ ?_
        · rw [toList_placeholderToken]
          exact List.cons_ne_nil _ _
        · rw [find?_starting hpairs hname, hlookup, Option.map_some]
      | none =>
        rw [Slot.shown_of_none (by rw [hshown, Option.none_or, hlookup])]
        refine substituteTogether_append (List.forall_mem_map.mpr fun pair hpair => ?_)
        have hne := bne_iff_ne.mp (List.lookup_eq_none_iff.mp hlookup pair hpair)
        exact (hpairs pair hpair).bare_token hname hne.symm h.isGuarded

/-- No token of a name stands in a text whose placeholders all have values. -/
theorem AreSeparated.not_infix_spelled (h : AreSeparated slots) (hvalues : AreLoose values slots)
    (hall : ∀ slot ∈ slots, (values slot.name).isSome) {name : String}
    (hname : IsPlaceholderName name) :
    ¬(placeholderToken name).toList <:+: spelled values slots := by
  induction slots with
  | nil =>
    rw [toList_placeholderToken]
    exact fun hinfix => List.cons_ne_nil _ _ (List.infix_nil.mp hinfix)
  | cons slot slots ih =>
    obtain ⟨hvalue, hlater⟩ := List.forall_mem_cons.mp hvalues
    obtain ⟨hsome, hothers⟩ := List.forall_mem_cons.mp hall
    obtain ⟨value, hshown⟩ := Option.isSome_iff_exists.mp hsome
    rw [spelled_cons, Slot.shown_of_some hshown]
    refine Bare.not_infix_append ?_ (Bare.not_infix_append
      (h.tail.bare_literal hlater hname (h.literals slot List.mem_cons_self))
      (ih h.tail hlater hothers))
    rw [toList_placeholderToken]
    exact (hvalue value hshown).bare

end Passes

section Layout

variable {layout : Layout} {pairs : List (String × String)} {values : String → Option String}

/-- Placeholders that are replaced together take the values they have. -/
theorem Layout.IsSeparated.replaceTogether_filled (h : layout.IsSeparated)
    (hpairs : ∀ pair ∈ pairs, IsPlaceholderName pair.1) (hvalues : AreLoose values layout.slots) :
    replaceTogether (tokenPairs pairs) (layout.filled values) =
      layout.filled fun name => (values name).or (pairs.lookup name) := by
  have hopening : ∀ pair ∈ tokenChars pairs,
      Bare pair.1 layout.opening (spelled values layout.slots) :=
    List.forall_mem_map.mpr fun pair hpair =>
      h.slots.bare_literal hvalues (hpairs pair hpair) h.opening
  have hchars : ((tokenPairs pairs).map fun pair => (pair.1.toList, pair.2.toList)) =
      tokenChars pairs := List.map_map
  rw [replaceTogether, hchars, Layout.filled, String.toList_ofList,
    substituteTogether_append hopening, h.slots.substituteTogether_spelled hpairs hvalues,
    Layout.filled]

/-- No token of a name stands in the text once all its placeholders have values. -/
theorem Layout.IsSeparated.not_infix_filled (h : layout.IsSeparated)
    (hvalues : AreLoose values layout.slots)
    (hall : ∀ slot ∈ layout.slots, (values slot.name).isSome) {name : String}
    (hname : IsPlaceholderName name) :
    ¬(placeholderToken name).toList <:+: (layout.filled values).toList := by
  rw [Layout.filled, String.toList_ofList]
  exact (h.slots.bare_literal hvalues hname h.opening).not_infix_append
    (h.slots.not_infix_spelled hvalues hall hname)

theorem placeholderToken_ne_empty (name : String) : placeholderToken name ≠ "" := by
  intro h
  have hchars := toList_placeholderToken name
  rw [h] at hchars
  cases hchars

/-- Passes one after the other give each placeholder the first value of its name. -/
theorem Layout.IsSeparated.foldl_replaceAll (h : layout.IsSeparated)
    (hpairs : ∀ pair ∈ pairs, IsPlaceholderName pair.1)
    (hloose : ∀ pair ∈ pairs, IsLoose pair.2.toList) (hvalues : AreLoose values layout.slots) :
    (tokenPairs pairs).foldl (fun text pair => replaceAll pair.1 pair.2 text)
        (layout.filled values) =
      layout.filled fun name => (values name).or (pairs.lookup name) := by
  induction pairs generalizing values with
  | nil => simp only [tokenPairs, List.map_nil, List.foldl_nil, List.lookup_nil, Option.or_none]
  | cons pair pairs ih =>
    obtain ⟨hpair, hothers⟩ := List.forall_mem_cons.mp hpairs
    obtain ⟨hvalue, hlater⟩ := List.forall_mem_cons.mp hloose
    -- The invariant is that what stands in the placeholders is loose, so a value is never searched.
    have hpass : replaceAll (placeholderToken pair.1) pair.2 (layout.filled values) =
        layout.filled fun name => (values name).or ([pair].lookup name) := by
      rw [replaceAll_eq (placeholderToken_ne_empty pair.1)]
      have hpairs : ∀ other ∈ [pair], IsPlaceholderName other.1 :=
        List.forall_mem_singleton.mpr hpair
      exact h.replaceTogether_filled hpairs hvalues
    have hnow : AreLoose (fun name => (values name).or ([pair].lookup name)) layout.slots := by
      intro slot hslot value hfound
      obtain hold | ⟨-, hnew⟩ := Option.or_eq_some_iff.mp hfound
      · exact hvalues slot hslot value hold
      · have hsame : (slot.name, value) = pair := List.mem_singleton.mp (mem_of_lookup hnew)
        rwa [← hsame] at hvalue
    rw [tokenPairs, List.map_cons, List.foldl_cons, hpass]
    refine (ih hothers hlater hnow).trans ?_
    refine congrArg (Layout.filled · layout) (funext fun name => ?_)
    rw [Option.or_assoc, ← List.lookup_append, List.singleton_append]

end Layout

section Orders

variable {assigned order : List (String × String)}

/-- A new token comes last. -/
theorem Replacements.insertIn_eq_append {token : String} (value : String)
    (h : token ∉ assigned.map Prod.fst) :
    insertIn token value assigned = assigned ++ [(token, value)] := by
  induction assigned with
  | nil => rfl
  | cons pair assigned ih =>
    rw [List.map_cons, List.mem_cons, not_or] at h
    obtain ⟨hhead, htail⟩ := h
    rw [insertIn, if_neg (fun hsame => hhead (beq_iff_eq.mp hsame).symm), ih htail,
      List.cons_append]

/-- Distinct tokens are put in as they come. -/
theorem Replacements.pairs_ofList (distinct : (assigned.map Prod.fst).Nodup) :
    (ofList assigned).pairs = assigned := by
  induction assigned using List.reverseRecOn with
  | nil => rfl
  | append_singleton front pair ih =>
    rw [List.map_append, List.nodup_append] at distinct
    obtain ⟨hfront, -, hapart⟩ := distinct
    have hnew : pair.1 ∉ front.map Prod.fst := fun hmem =>
      hapart pair.1 hmem pair.1 (List.mem_map_of_mem (List.mem_singleton_self pair)) rfl
    rw [ofList, List.foldl_append, List.foldl_cons, List.foldl_nil, ← ofList, insert, ih hfront,
      insertIn_eq_append pair.2 hnew]

/-- Without values, all values are loose. -/
theorem areLoose_none (slots : List Slot) : AreLoose (fun _ => none) slots :=
  fun _ _ _ hvalue => nomatch hvalue

/-- Among distinct names with loose values, every order of the passes gives each placeholder the
value of its own name. -/
theorem Layout.IsSeparated.render_of_loose {layout : Layout} (hlayout : layout.IsSeparated)
    (distinct : (assigned.map Prod.fst).Nodup)
    (hnames : ∀ pair ∈ assigned, IsPlaceholderName pair.1)
    (hloose : ∀ pair ∈ assigned, IsLoose pair.2.toList) (horder : order.Perm assigned) :
    (Replacements.ofList (tokenPairs order)).render layout.text =
      layout.filled fun name => assigned.lookup name := by
  have htokens : ((tokenPairs order).map Prod.fst).Nodup := by
    have hmap : (tokenPairs order).map Prod.fst = (order.map Prod.fst).map placeholderToken := by
      rw [tokenPairs, List.map_map, List.map_map]
      rfl
    rw [hmap]
    exact List.Nodup.map placeholderToken_injective
      ((horder.map Prod.fst).nodup_iff.mpr distinct)
  calc (Replacements.ofList (tokenPairs order)).render layout.text
      = (tokenPairs order).foldl (fun text pair => replaceAll pair.1 pair.2 text) layout.text := by
        rw [Replacements.render, Replacements.pairs_ofList htokens]
    _ = layout.filled fun name => order.lookup name := by
        refine (hlayout.foldl_replaceAll (fun pair hpair => hnames pair (horder.subset hpair))
          (fun pair hpair => hloose pair (horder.subset hpair)) (areLoose_none _)).trans ?_
        simp only [Option.none_or]
    _ = layout.filled fun name => assigned.lookup name := by
        rw [funext (lookup_perm distinct horder)]

/-- Placeholders that are kept apart get the values of their own names, and nothing else of the
text changes, in whatever order the values are put in. -/
theorem Layout.IsSeparated.render_eq_filled {layout : Layout} (hlayout : layout.IsSeparated)
    (distinct : (assigned.map Prod.fst).Nodup)
    (hnames : ∀ pair ∈ assigned, IsPlaceholderName pair.1)
    (hvalues : ∀ pair ∈ assigned, '_' ∉ pair.2.toList) (horder : order.Perm assigned) :
    (Replacements.ofList (tokenPairs order)).render layout.text =
      layout.filled fun name => assigned.lookup name :=
  hlayout.render_of_loose distinct hnames
    (fun pair hpair => isLoose_of_not_mem (hvalues pair hpair)) horder

/-- Underscores next to the placeholders, an empty value between them and a placeholder without a
value, in both orders. -/
theorem render_around_empty_value :
    let layout : Layout :=
      ⟨['x', '_'], [⟨"a", ['_', ' ', '_']⟩, ⟨"feature_type", ['_', '/']⟩, ⟨"other", ['_', ';']⟩,
        ⟨"a", []⟩]⟩
    let assigned := [("a", ""), ("feature_type", "feature")]
    layout.IsSeparated ∧ (assigned.map Prod.fst).Nodup ∧
      (∀ pair ∈ assigned, IsPlaceholderName pair.1) ∧ (∀ pair ∈ assigned, '_' ∉ pair.2.toList) ∧
      layout.text = "x___a___ ___feature_type___/__other___;__a__" ∧
      (Replacements.ofList (tokenPairs assigned)).render layout.text =
        "x__ _feature_/__other___;" ∧
      (Replacements.ofList (tokenPairs assigned.reverse)).render layout.text =
        "x__ _feature_/__other___;" := by
  intro layout assigned
  have hlayout : layout.IsSeparated := by decide +kernel
  have distinct : (assigned.map Prod.fst).Nodup := by decide
  have hnames : ∀ pair ∈ assigned, IsPlaceholderName pair.1 := by decide +kernel
  have hvalues : ∀ pair ∈ assigned, '_' ∉ pair.2.toList := by decide +kernel
  have hfilled :
      (layout.filled fun name => assigned.lookup name) = "x__ _feature_/__other___;" := by
    decide +kernel
  refine ⟨hlayout, distinct, hnames, hvalues, by decide +kernel, ?_, ?_⟩
  · exact (hlayout.render_eq_filled distinct hnames hvalues (List.Perm.refl _)).trans hfilled
  · exact (hlayout.render_eq_filled distinct hnames hvalues assigned.reverse_perm).trans hfilled

end Orders

end Scaffold
