import Mathlib.Data.List.DropRight
import Scaffold.Proofs.Path.Spelling

/-!
# Paths under a root

A path taken from a root is spelled as the pieces that lead to the root, followed by its own. If
these are names, the parent of the path is spelled as the same pieces without the last name. The
parent of a single name is the root, spelled without the idle pieces at its end.
-/

namespace Scaffold

/-- A step that leads nowhere else. -/
def Disk.IsIdle (step : String) : Prop := step = "" ∨ step = "."

namespace Path

open Disk (IsName IsIdle)

/-- The pieces that everything taken from a path starts with: all of them except an empty one at
the end. -/
def lead (root : Path) : List (List Char) :=
  if root.text.toList.getLast? = some '/' then (pieces root.text.toList).dropLast
  else pieces root.text.toList

/-- The path that names lead to from a root. -/
def under (root : Path) (names : List String) : Path :=
  ⟨String.ofList (joinPieces (root.lead ++ names.map String.toList))⟩

/-- A path is spelled with the pieces of its lead, perhaps followed by a separator. -/
theorem text_eq_lead (root : Path) :
    root.text.toList.getLast? ≠ some '/' ∧ pieces root.text.toList = root.lead ∨
      ∃ chars, root.text.toList = chars ++ ['/'] ∧ pieces chars = root.lead ∧
        pieces root.text.toList = root.lead ++ [[]] := by
  unfold lead
  by_cases hlast : root.text.toList.getLast? = some '/'
  · obtain ⟨chars, htext⟩ := List.getLast?_eq_some_iff.mp hlast
    have hpieces : pieces root.text.toList = pieces chars ++ [[]] := by
      rw [htext]
      exact pieces_append chars []
    rw [if_pos hlast, hpieces, List.dropLast_concat]
    exact .inr ⟨chars, htext, rfl, rfl⟩
  · rw [if_neg hlast]
    exact .inl ⟨hlast, rfl⟩

theorem lead_ne_nil (root : Path) : root.lead ≠ [] := by
  obtain ⟨_, hlead⟩ | ⟨chars, _, hlead, _⟩ := root.text_eq_lead <;>
    exact hlead ▸ pieces_ne_nil _

/-- No piece before the names holds a separator. -/
theorem separator_not_mem_lead {root : Path} {piece : List Char} (h : piece ∈ root.lead) :
    '/' ∉ piece := by
  obtain ⟨_, hlead⟩ | ⟨chars, _, hlead, _⟩ := root.text_eq_lead <;>
    exact separator_not_mem (hlead ▸ h)

/-- The steps of a path are those of its lead, perhaps followed by an idle one. -/
theorem steps_eq_lead (root : Path) :
    ∃ tail, Disk.steps root.text = root.lead.map String.ofList ++ tail ∧
      ∀ step ∈ tail, IsIdle step := by
  unfold Disk.steps
  obtain ⟨_, hlead⟩ | ⟨chars, _, _, hlead⟩ := root.text_eq_lead
  · exact ⟨[], by rw [hlead, List.append_nil], List.forall_mem_nil _⟩
  · refine ⟨[""], by rw [hlead, List.map_append]; rfl, ?_⟩
    exact List.forall_mem_singleton.mpr (.inl rfl)

/-- A plain path does not start at the root. -/
theorem isAbsolute_of_isPlain {path : Path} (h : path.IsPlain) : path.isAbsolute = false := by
  unfold isAbsolute
  cases hchars : path.text.toList with
  | nil => rfl
  | cons char rest =>
    rw [List.head?_cons, beq_eq_false_iff_ne]
    rintro hchar
    cases hchar
    have hempty : "" ∈ path.names := by
      rw [names, Disk.steps, hchars]
      exact List.mem_cons_self
    exact (h "" hempty).nonempty rfl

/-- A plain path taken from a root is spelled with its names under the root. -/
theorem join_of_isPlain {root path : Path} (hroot : root.text ≠ "") (h : path.IsPlain) :
    root.join path = root.under path.names := by
  have hnil : root.text.toList.isEmpty = false := by
    rw [List.isEmpty_eq_false_iff]
    exact fun hnil => hroot (String.toList_eq_nil_iff.mp hnil)
  unfold join under
  simp only [isAbsolute_of_isPlain h, hnil, Bool.or_self, Bool.false_eq_true, if_false, beq_iff_eq]
  rw [map_toList_names, joinPieces_append root.lead_ne_nil (pieces_ne_nil _), joinPieces_pieces]
  obtain ⟨hlast, hlead⟩ | ⟨chars, htext, hlead, _⟩ := root.text_eq_lead
  · rw [if_neg hlast, ← hlead, joinPieces_pieces, mk.injEq, ← String.toList_inj,
      String.toList_ofList, String.toList_append, String.toList_append, List.append_assoc]
    rfl
  · rw [if_pos (by rw [htext, List.getLast?_concat]), ← hlead, joinPieces_pieces, mk.injEq,
      ← String.toList_inj, String.toList_ofList, String.toList_append, htext, List.append_assoc]
    rfl

section Under

variable {root : Path} {names : List String} {name : String}

/-- Under a root, the names come behind the pieces of the root. -/
theorem pieces_under (h : ∀ name ∈ names, IsName name) :
    pieces (root.under names).text.toList = root.lead ++ names.map String.toList := by
  rw [under, String.toList_ofList]
  apply pieces_joinPieces (List.append_ne_nil_of_left_ne_nil root.lead_ne_nil _)
  intro piece hm
  obtain hlead | hnames := List.mem_append.mp hm
  · exact separator_not_mem_lead hlead
  · obtain ⟨own, hown, rfl⟩ := List.mem_map.mp hnames
    exact (h own hown).noSeparator

/-- The steps to a path under a root are those of the root and then the names. -/
theorem steps_under (h : ∀ name ∈ names, IsName name) :
    Disk.steps (root.under names).text = root.lead.map String.ofList ++ names := by
  rw [Disk.steps, pieces_under h, List.map_append, List.map_map]
  congr 1
  exact (List.map_congr_left fun _ _ => String.ofList_toList).trans (List.map_id _)

/-- Every name under a root is a component. -/
theorem length_le_components_under (h : ∀ name ∈ names, IsName name) :
    names.length ≤ (root.under names).components.length := by
  obtain ⟨first, others, hlead⟩ := List.exists_cons_of_ne_nil root.lead_ne_nil
  have hpieces := @pieces_under root _ h
  rw [hlead, List.cons_append] at hpieces
  have hinner : (names.map String.toList).filterMap innerComponent? = names.map .name := by
    rw [List.filterMap_map, ← List.filterMap_eq_map]
    apply List.filterMap_congr
    intro name hm
    have hname : IsName (String.ofList name.toList) := by rw [String.ofList_toList]; exact h name hm
    rw [Function.comp_apply, innerComponent?_of_isName hname, String.ofList_toList]
    rfl
  unfold components componentsOf
  simp only [hpieces, List.filterMap_append, hinner]
  split
  · split
    · next hnone =>
      rw [List.isEmpty_iff, List.append_eq_nil_iff, List.map_eq_nil_iff] at hnone
      rw [hnone.2]
      exact Nat.zero_le _
    · simp only [List.length_cons, List.length_append, List.length_map]
      omega
  · split
    · simp only [List.length_cons, List.length_append, List.length_map]
      omega
    · simp only [List.length_append, List.length_map]
      omega

/-- One name more is spelled behind a separator. -/
theorem under_concat_text (root : Path) (names : List String) (name : String) :
    (root.under (names ++ [name])).text.toList =
      (root.under names).text.toList ++ '/' :: name.toList := by
  unfold under
  rw [String.toList_ofList, String.toList_ofList, List.map_append, ← List.append_assoc,
    List.map_singleton,
    joinPieces_append (List.append_ne_nil_of_left_ne_nil root.lead_ne_nil _)
      (List.cons_ne_nil name.toList []), joinPieces_singleton]

/-- Names lead further than some of them. -/
theorem under_text_isPrefix (root : Path) {names further : List String} (h : names <+: further) :
    (root.under names).text.toList <+: (root.under further).text.toList := by
  obtain ⟨rest, rfl⟩ := h
  induction rest using List.reverseRecOn with
  | nil => rw [List.append_nil]
  | append_singleton rest name ih =>
    rw [← List.append_assoc, under_concat_text]
    exact ih.trans (List.prefix_append _ _)

/-- Names under a root are spelled with the root first. -/
theorem text_isPrefix_under (root : Path) (hne : names ≠ []) :
    root.text.toList <+: (root.under names).text.toList := by
  have hnames : names.map String.toList ≠ [] := fun h => hne (List.map_eq_nil_iff.mp h)
  rw [under, String.toList_ofList, joinPieces_append root.lead_ne_nil hnames]
  obtain ⟨_, hlead⟩ | ⟨chars, htext, hlead, _⟩ := root.text_eq_lead
  · rw [← hlead, joinPieces_pieces]
    exact List.prefix_append _ _
  · rw [← hlead, joinPieces_pieces, htext]
    exact List.prefix_append_right_inj chars |>.mpr (List.prefix_append ['/'] _)

/-- No name is an idle piece. -/
theorem isIdlePiece_of_isName (h : IsName name) : isIdlePiece name.toList = false := by
  have hnonempty : name.toList ≠ [] := fun hnil => h.nonempty (String.toList_eq_nil_iff.mp hnil)
  have hhere : name.toList ≠ ['.'] := fun hdot => h.notHere (String.toList_inj.mp hdot)
  simp only [isIdlePiece, Bool.or_eq_false_iff, beq_eq_false_iff_ne]
  exact ⟨hnonempty, hhere⟩

/-- Behind a piece that is not idle, nothing is dropped. -/
theorem dropIdle_concat {front : List (List Char)} {last : List Char}
    (h : isIdlePiece last = false) : dropIdle (front ++ [last]) = front ++ [last] :=
  List.rdropWhile_concat_neg isIdlePiece front last (by rw [h]; exact Bool.false_ne_true)

theorem dropIdle_cons {first : List Char} (others : List (List Char))
    (h : isIdlePiece first = false) : dropIdle (first :: others) = first :: dropIdle others := by
  induction others using List.reverseRecOn with
  | nil => exact @dropIdle_concat [] first h
  | append_singleton front last ih =>
    cases hlast : isIdlePiece last with
    | false => rw [← List.cons_append, dropIdle_concat hlast, dropIdle_concat hlast]; rfl
    | true =>
      have hdrop : ∀ parts, dropIdle (parts ++ [last]) = dropIdle parts :=
        fun parts => List.rdropWhile_concat_pos isIdlePiece parts last hlast
      rw [← List.cons_append, hdrop, hdrop, ih]

/-- What is dropped at the end of pieces are idle steps. -/
theorem exists_dropIdle (parts : List (List Char)) :
    ∃ idle, parts = dropIdle parts ++ idle ∧ ∀ step ∈ idle.map String.ofList, IsIdle step := by
  refine ⟨(parts.reverse.takeWhile isIdlePiece).reverse, ?_, ?_⟩
  · rw [dropIdle, ← List.reverse_append, List.takeWhile_append_dropWhile, List.reverse_reverse]
  · intro step hm
    obtain ⟨piece, hpiece, rfl⟩ := List.mem_map.mp hm
    have hidle := List.mem_takeWhile_imp (List.mem_reverse.mp hpiece)
    simp only [isIdlePiece, Bool.or_eq_true, beq_iff_eq] at hidle
    obtain rfl | rfl := hidle
    · exact .inl rfl
    · exact .inr rfl

/-- Before the last piece that is not idle are the others. -/
theorem beforeLast?_concat {front : List (List Char)} {last : List Char}
    (h : isIdlePiece last = false) : beforeLast? (front ++ [last]) = some (dropIdle front) := by
  simp only [beforeLast?, dropIdle_concat h, List.reverse_append, List.reverse_singleton,
    List.singleton_append, List.reverse_reverse]

/-- The parent of a path whose last piece counts is spelled with the pieces before it, of which the
first is kept and idle ones at the end are dropped. -/
theorem parent?_of_pieces {path : Path} {first last : List Char} {others : List (List Char)}
    (h : pieces path.text.toList = first :: (others ++ [last])) (hlast : isIdlePiece last = false) :
    path.parent? = some (if first = [] ∧ dropIdle others = [] then ⟨"/"⟩
      else ⟨String.ofList (joinPieces (first :: dropIdle others))⟩) := by
  have hbefore := @beforeLast?_concat others last hlast
  unfold parent?
  rw [h]
  cases first with
  | nil =>
    have hempty : (others ++ [last]).isEmpty = false :=
      List.isEmpty_eq_false_iff.mpr (List.append_ne_nil_of_right_ne_nil _ (List.cons_ne_nil _ _))
    simp only [hempty, hbefore, Bool.false_eq_true, if_false, Option.map_some, true_and]
    by_cases hkept : dropIdle others = []
    · rw [if_pos hkept, hkept]
      rfl
    · rw [if_neg hkept, joinPieces_cons [] hkept, Option.some.injEq, mk.injEq,
        ← String.toList_inj, String.toList_append, String.toList_ofList, String.toList_ofList,
        String.toList_ofList]
      rfl
  | cons char rest =>
    simp only [reduceCtorEq, false_and, if_false, hbefore, beq_iff_eq]
    split
    · rfl
    · next hhere =>
      have hfirst : isIdlePiece (char :: rest) = false := by
        simp only [isIdlePiece, Bool.or_eq_false_iff, beq_eq_false_iff_ne]
        exact ⟨List.cons_ne_nil _ _, hhere⟩
      rw [← List.cons_append, beforeLast?_concat hlast, Option.map_some]
      rw [dropIdle_cons others hfirst]

/-- The parent of names under a root is the path of the names but the last. -/
theorem parent?_under_concat (hne : names ≠ []) (h : ∀ own ∈ names ++ [name], IsName own) :
    (root.under (names ++ [name])).parent? = some (root.under names) := by
  obtain ⟨first, others, hlead⟩ := List.exists_cons_of_ne_nil root.lead_ne_nil
  have hpieces := @pieces_under root _ h
  rw [hlead, List.map_append, List.map_singleton, List.cons_append, ← List.append_assoc] at hpieces
  have hname := isIdlePiece_of_isName (h name (List.mem_append_right _ List.mem_cons_self))
  obtain ⟨front, own, rfl⟩ := (List.eq_nil_or_concat' names).resolve_left hne
  have hown := isIdlePiece_of_isName
    (h own (List.mem_append_left _ (List.mem_append_right _ List.mem_cons_self)))
  have hkept : dropIdle (others ++ (front ++ [own]).map String.toList) =
      others ++ (front ++ [own]).map String.toList := by
    rw [List.map_append, List.map_singleton, ← List.append_assoc, dropIdle_concat hown]
  have hnonempty : others ++ (front ++ [own]).map String.toList ≠ [] := by
    rw [List.map_append]
    exact List.append_ne_nil_of_right_ne_nil _
      (List.append_ne_nil_of_right_ne_nil _ (List.cons_ne_nil _ _))
  rw [parent?_of_pieces hpieces hname, hkept, if_neg fun h => hnonempty h.2, under, hlead]
  rfl

/-- The parent of a name under a root is the root without idle steps at its end, spelled with no
more than the path of the name. -/
theorem parent?_under_singleton (h : IsName name) :
    ∃ above : Path, (root.under [name]).parent? = some above ∧ above.text ≠ "" ∧
      above.text.toList <+: (root.under [name]).text.toList ∧
      ∃ kept idle tail, root.lead.map String.ofList = kept ++ idle ∧
        Disk.steps above.text = kept ++ tail ∧ (∀ step ∈ idle, IsIdle step) ∧
        ∀ step ∈ tail, IsIdle step := by
  obtain ⟨first, others, hlead⟩ := List.exists_cons_of_ne_nil root.lead_ne_nil
  have hpieces := @pieces_under root _ (List.forall_mem_singleton.mpr h)
  have htext := joinPieces_pieces (root.under [name]).text.toList
  rw [hpieces, hlead, List.map_singleton] at htext
  rw [hlead, List.map_singleton, List.cons_append] at hpieces
  have hparent := parent?_of_pieces hpieces (isIdlePiece_of_isName h)
  obtain ⟨idle, hothers, hidle⟩ := exists_dropIdle others
  generalize dropIdle others = kept at hparent hothers
  subst hothers
  have hsplit : root.lead.map String.ofList =
      (first :: kept).map String.ofList ++ idle.map String.ofList := by
    rw [hlead, ← List.map_append, List.cons_append]
  refine ⟨_, hparent, ?_⟩
  by_cases htop : first = [] ∧ kept = []
  · obtain ⟨rfl, rfl⟩ := htop
    rw [if_pos ⟨rfl, rfl⟩]
    refine ⟨by decide, ?_, _, _, [""], hsplit, rfl, hidle, ?_⟩
    · rw [← htext, List.nil_append, List.cons_append, joinPieces_cons [] (by simp)]
      exact List.prefix_append ['/'] _
    · exact List.forall_mem_singleton.mpr (.inl rfl)
  · rw [if_neg htop]
    have hkept : ∀ piece ∈ first :: kept, '/' ∉ piece := by
      intro piece hm
      apply @separator_not_mem_lead root
      rw [hlead, ← List.cons_append]
      exact List.mem_append_left _ hm
    have hback := pieces_joinPieces (List.cons_ne_nil _ _) hkept
    refine ⟨?_, ?_, _, _, [], hsplit, ?_, hidle, List.forall_mem_nil _⟩
    · intro hempty
      have hnil := congrArg String.toList hempty
      rw [String.toList_ofList] at hnil
      rw [hnil] at hback
      obtain ⟨rfl, rfl⟩ := List.cons.inj hback
      exact htop ⟨rfl, rfl⟩
    · rw [← htext, String.toList_ofList, ← List.cons_append, List.append_assoc,
        joinPieces_append (List.cons_ne_nil _ _) (by simp)]
      exact List.prefix_append _ _
    · rw [Disk.steps, String.toList_ofList, hback, List.append_nil]

end Under

end Path

end Scaffold
