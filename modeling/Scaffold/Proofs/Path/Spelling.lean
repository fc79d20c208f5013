import Mathlib.Data.List.Infix
import Mathlib.Data.List.TakeWhile
import Mathlib.Data.List.Induction
import Scaffold.Disk

/-!
# Spellings of paths

The pieces of a path are what stands between its separators, and a path is its pieces joined. A
path is plain if all its pieces are names of entries; then its components are these names.
-/

namespace Scaffold

namespace Disk

/-- A text that can be the name of an entry. -/
structure IsName (text : String) : Prop where
  /-- It is not empty. -/
  nonempty : text ≠ ""
  /-- It does not mean the directory that it stands in. -/
  notHere : text ≠ "."
  /-- It does not mean the directory above. -/
  notUp : text ≠ ".."
  /-- It is one piece. -/
  noSeparator : '/' ∉ text.toList
  /-- It holds no null character. -/
  noNull : '\x00' ∉ text.toList
  /-- It is not too long. -/
  short : text.utf8ByteSize ≤ nameLimit

instance : DecidablePred IsName := fun text =>
  decidable_of_iff (text ≠ "" ∧ text ≠ "." ∧ text ≠ ".." ∧ '/' ∉ text.toList ∧
      '\x00' ∉ text.toList ∧ text.utf8ByteSize ≤ nameLimit)
    ⟨fun ⟨hnonempty, hhere, hup, hseparator, hnull, hshort⟩ =>
      ⟨hnonempty, hhere, hup, hseparator, hnull, hshort⟩,
    fun h => ⟨h.nonempty, h.notHere, h.notUp, h.noSeparator, h.noNull, h.short⟩⟩

end Disk

namespace Path

open Disk (IsName)

theorem pieces_ne_nil (chars : List Char) : pieces chars ≠ [] := by
  cases chars with
  | nil => exact List.cons_ne_nil _ _
  | cons char rest =>
    rw [pieces]
    split
    · exact List.cons_ne_nil _ _
    · split <;> exact List.cons_ne_nil _ _

/-- A character that is no separator belongs to the first piece. -/
theorem pieces_cons {char : Char} {rest piece : List Char} {others : List (List Char)}
    (hchar : char ≠ '/') (hrest : pieces rest = piece :: others) :
    pieces (char :: rest) = (char :: piece) :: others := by
  rw [pieces, if_neg (by rwa [beq_iff_eq]), hrest]

/-- A separator divides the pieces before it from those behind it. -/
theorem pieces_append (left right : List Char) :
    pieces (left ++ '/' :: right) = pieces left ++ pieces right := by
  induction left with
  | nil => rfl
  | cons char rest ih =>
    by_cases hchar : char = '/'
    · subst hchar
      exact congrArg ([] :: ·) ih
    · obtain ⟨piece, others, hrest⟩ := List.exists_cons_of_ne_nil (pieces_ne_nil rest)
      rw [hrest, List.cons_append] at ih
      rw [List.cons_append, pieces_cons hchar ih, pieces_cons hchar hrest, List.cons_append]

/-- Without a separator there is one piece. -/
theorem pieces_of_not_mem {chars : List Char} (h : '/' ∉ chars) : pieces chars = [chars] := by
  induction chars with
  | nil => rfl
  | cons char rest ih =>
    rw [List.mem_cons, not_or] at h
    exact pieces_cons (Ne.symm h.1) (ih h.2)

/-- No piece holds a separator. -/
theorem separator_not_mem {chars piece : List Char} (h : piece ∈ pieces chars) : '/' ∉ piece := by
  induction chars generalizing piece with
  | nil =>
    cases List.mem_singleton.mp h
    exact List.not_mem_nil
  | cons char rest ih =>
    by_cases hchar : char = '/'
    · subst hchar
      obtain rfl | hm := List.mem_cons.mp h
      · exact List.not_mem_nil
      · exact ih hm
    · obtain ⟨first, others, hrest⟩ := List.exists_cons_of_ne_nil (pieces_ne_nil rest)
      rw [hrest] at ih
      rw [pieces_cons hchar hrest] at h
      obtain rfl | hm := List.mem_cons.mp h
      · rw [List.mem_cons, not_or]
        exact ⟨Ne.symm hchar, ih List.mem_cons_self⟩
      · exact ih (List.mem_cons_of_mem _ hm)

/-- A character that is no separator stands in a piece. -/
theorem exists_piece_of_mem {char : Char} {chars : List Char} (h : char ∈ chars)
    (hchar : char ≠ '/') : ∃ piece ∈ pieces chars, char ∈ piece := by
  induction chars with
  | nil => cases h
  | cons first rest ih =>
    by_cases hfirst : first = '/'
    · subst hfirst
      obtain ⟨piece, hm, hpiece⟩ := ih ((List.mem_cons.mp h).resolve_left hchar)
      exact ⟨piece, List.mem_cons_of_mem _ hm, hpiece⟩
    · obtain ⟨piece, others, hrest⟩ := List.exists_cons_of_ne_nil (pieces_ne_nil rest)
      rw [pieces_cons hfirst hrest]
      obtain rfl | hin := List.mem_cons.mp h
      · exact ⟨_, List.mem_cons_self, List.mem_cons_self⟩
      · obtain ⟨own, hm, hown⟩ := ih hin
        rw [hrest] at hm
        obtain rfl | hother := List.mem_cons.mp hm
        · exact ⟨_, List.mem_cons_self, List.mem_cons_of_mem _ hown⟩
        · exact ⟨own, List.mem_cons_of_mem _ hother, hown⟩

theorem joinPieces_singleton (piece : List Char) : joinPieces [piece] = piece :=
  List.intercalate_singleton

/-- A piece is joined to the others by a separator. -/
theorem joinPieces_cons (piece : List Char) {rest : List (List Char)} (hrest : rest ≠ []) :
    joinPieces (piece :: rest) = piece ++ '/' :: joinPieces rest := by
  obtain ⟨next, others, rfl⟩ := List.exists_cons_of_ne_nil hrest
  rw [joinPieces, List.intercalate_cons_cons, List.append_assoc]
  rfl

/-- Pieces joined to others are divided from them by a separator. -/
theorem joinPieces_append {front back : List (List Char)} (hfront : front ≠ [])
    (hback : back ≠ []) :
    joinPieces (front ++ back) = joinPieces front ++ '/' :: joinPieces back := by
  induction front with
  | nil => exact absurd rfl hfront
  | cons piece rest ih =>
    rw [List.cons_append,
      joinPieces_cons piece (List.append_ne_nil_of_right_ne_nil rest hback)]
    by_cases hnil : rest = []
    · subst hnil
      rw [joinPieces_singleton, List.nil_append]
    · rw [ih hnil, joinPieces_cons piece hnil, List.append_assoc, List.cons_append]

theorem joinPieces_pieces (chars : List Char) : joinPieces (pieces chars) = chars := by
  induction chars with
  | nil => rfl
  | cons char rest ih =>
    by_cases hchar : char = '/'
    · subst hchar
      change joinPieces ([] :: pieces rest) = _
      rw [joinPieces_cons [] (pieces_ne_nil rest), ih, List.nil_append]
    · obtain ⟨piece, others, hrest⟩ := List.exists_cons_of_ne_nil (pieces_ne_nil rest)
      rw [pieces_cons hchar hrest]
      rw [hrest] at ih
      by_cases hnil : others = []
      · subst hnil
        rw [joinPieces_singleton] at ih ⊢
        rw [ih]
      · rw [joinPieces_cons _ hnil] at ih ⊢
        rw [List.cons_append, ih]

theorem pieces_joinPieces {parts : List (List Char)} (hne : parts ≠ [])
    (h : ∀ piece ∈ parts, '/' ∉ piece) : pieces (joinPieces parts) = parts := by
  induction parts with
  | nil => exact absurd rfl hne
  | cons piece rest ih =>
    obtain ⟨hpiece, hrest⟩ := List.forall_mem_cons.mp h
    by_cases hnil : rest = []
    · subst hnil
      rw [joinPieces_singleton, pieces_of_not_mem hpiece]
    · rw [joinPieces_cons piece hnil, pieces_append, ih hnil hrest, pieces_of_not_mem hpiece]
      rfl

/-- Between separators, there is nothing. -/
theorem pieces_replicate (count : Nat) :
    pieces (List.replicate count '/') = List.replicate (count + 1) [] := by
  induction count with
  | zero => rfl
  | succ count ih => exact congrArg ([] :: ·) ih

/-- Separators at the end of a path are empty pieces. -/
theorem pieces_append_separators (chars : List Char) (count : Nat) :
    pieces (chars ++ List.replicate count '/') = pieces chars ++ List.replicate count [] := by
  cases count with
  | zero => rw [List.replicate_zero, List.append_nil, List.replicate_zero, List.append_nil]
  | succ count => rw [List.replicate_succ, pieces_append, pieces_replicate]

/-- What is dropped of a path at its end are separators. -/
theorem exists_dropSeparators (chars : List Char) :
    ∃ count, chars =
      (chars.reverse.dropWhile (· == '/')).reverse ++ List.replicate count '/' := by
  have hdropped : ∀ char ∈ chars.reverse.takeWhile (· == '/'), char = '/' :=
    fun _ hm => beq_iff_eq.mp (@List.mem_takeWhile_imp _ (· == '/') _ _ hm)
  refine ⟨(chars.reverse.takeWhile (· == '/')).length, ?_⟩
  rw [← List.reverse_replicate, ← List.eq_replicate_of_mem hdropped, ← List.reverse_append,
    List.takeWhile_append_dropWhile, List.reverse_reverse]

/-- The names that a path is spelled with, if it is plain. -/
def names (path : Path) : List String := Disk.steps path.text

/-- All pieces of the path are names: it has no separators at the start or at the end or in a row,
and no dots. -/
def IsPlain (path : Path) : Prop := ∀ name ∈ path.names, IsName name

instance : DecidablePred IsPlain := fun path =>
  inferInstanceAs (Decidable (∀ name ∈ path.names, IsName name))

/-- The path spelled with names. -/
def ofNames (names : List String) : Path :=
  ⟨String.ofList (joinPieces (names.map String.toList))⟩

theorem names_ne_nil (path : Path) : path.names ≠ [] :=
  fun h => pieces_ne_nil _ (List.map_eq_nil_iff.mp h)

/-- The names of a path are its pieces. -/
theorem map_toList_names (path : Path) : path.names.map String.toList = pieces path.text.toList := by
  unfold names Disk.steps
  rw [List.map_map]
  exact (List.map_congr_left fun _ _ => String.toList_ofList).trans (List.map_id _)

/-- A path that is spelled by names has these names. -/
theorem names_ofNames {names : List String} (hne : names ≠ []) (h : ∀ name ∈ names, IsName name) :
    (ofNames names).names = names := by
  have hparts : ∀ piece ∈ names.map String.toList, '/' ∉ piece := by
    intro piece hm
    obtain ⟨name, hname, rfl⟩ := List.mem_map.mp hm
    exact (h name hname).noSeparator
  have hpieces := pieces_joinPieces (fun hnil => hne (List.map_eq_nil_iff.mp hnil)) hparts
  rw [Path.names, Disk.steps, ofNames, String.toList_ofList, hpieces, List.map_map]
  exact (List.map_congr_left fun _ _ => String.ofList_toList).trans (List.map_id _)

/-- A name is a component. -/
theorem innerComponent?_of_isName {piece : List Char} (h : IsName (String.ofList piece)) :
    innerComponent? piece = some (.name (String.ofList piece)) := by
  have hnonempty : piece ≠ [] := by rintro rfl; exact h.nonempty rfl
  have hhere : piece ≠ ['.'] := by rintro rfl; exact h.notHere rfl
  have hup : piece ≠ ['.', '.'] := by rintro rfl; exact h.notUp rfl
  simp only [innerComponent?, Bool.or_eq_true, beq_iff_eq, hnonempty, hhere, hup, or_self,
    if_false]

/-- The components of a plain path are its names. -/
theorem components_of_isPlain {path : Path} (h : path.IsPlain) :
    path.components = path.names.map .name := by
  have hinner : ∀ others : List (List Char), (∀ piece ∈ others, IsName (String.ofList piece)) →
      others.filterMap innerComponent? = (others.map String.ofList).map .name := by
    intro others hothers
    rw [List.map_map, ← List.filterMap_eq_map]
    exact List.filterMap_congr fun piece hm => innerComponent?_of_isName (hothers piece hm)
  have hpieces : ∀ piece ∈ pieces path.text.toList, IsName (String.ofList piece) :=
    fun piece hm => h _ (List.mem_map_of_mem hm)
  obtain ⟨first, others, hsplit⟩ := List.exists_cons_of_ne_nil (pieces_ne_nil path.text.toList)
  rw [hsplit] at hpieces
  obtain ⟨hfirst, hothers⟩ := List.forall_mem_cons.mp hpieces
  have hnonempty : first ≠ [] := by rintro rfl; exact hfirst.nonempty rfl
  have hhere : first ≠ ['.'] := by rintro rfl; exact hfirst.notHere rfl
  unfold components componentsOf names Disk.steps
  simp only [hsplit, beq_iff_eq, hnonempty, hhere, if_false, innerComponent?_of_isName hfirst,
    hinner others hothers, Option.toList_some, List.map_cons, List.singleton_append]

/-- A plain path holds no null character. -/
theorem null_not_mem_of_isPlain {path : Path} (h : path.IsPlain) : '\x00' ∉ path.text.toList := by
  intro hnull
  obtain ⟨piece, hm, hpiece⟩ := exists_piece_of_mem hnull (by decide)
  have hname := h _ (List.mem_map_of_mem hm)
  exact hname.noNull (String.toList_ofList ▸ hpiece)

end Path

end Scaffold
