import Mathlib.Data.List.Induction
import Scaffold.Text.Lines

/-!
# Lines that end after line feeds

A text is a list of lines, each with a line feed behind it, and the characters behind the last line
feed. Cutting it finds these lines, and the rest as another line unless it is empty. So it can be
taken apart between its lines, and lines can be put in there.
-/

namespace Scaffold.Text

/-- Lines with a line feed behind each. -/
def fed (lines : List (List Char)) : List Char := lines.flatMap (· ++ ['\n'])

/-- The characters behind the last line feed as a line, unless there are none. -/
def openLine (chars : List Char) : List (List Char) := if chars.isEmpty then [] else [chars]

/-- A line without the line feed that ends it. -/
def unfed (line : List Char) : List Char := line.filter (· != '\n')

/-- The lines of characters without the line feeds that end them. -/
def bareLines (chars : List Char) : List (List Char) := (feedLines chars).map unfed

/-- A place between two parts of a text is the start of a line or one of the ends of the text. -/
def IsLineBorder (front back : List Char) : Prop :=
  front = [] ∨ front.getLast? = some '\n' ∨ back = []

section Cutting

variable {lines : List (List Char)} {rest : List Char}

/-- Lines are fed one behind the other. -/
theorem fed_append (front back : List (List Char)) : fed (front ++ back) = fed front ++ fed back :=
  List.flatMap_append

theorem fed_singleton (line : List Char) : fed [line] = line ++ ['\n'] := List.flatMap_singleton ..

theorem openLine_of_ne_nil {chars : List Char} (h : chars ≠ []) : openLine chars = [chars] :=
  if_neg fun hempty => h (List.isEmpty_iff.mp hempty)

/-- Lines put together are the text that they were cut from. -/
theorem flatten_feedLinesFrom (line chars : List Char) :
    (feedLinesFrom line chars).flatten = line.reverse ++ chars := by
  induction chars generalizing line with
  | nil => cases line <;> simp [feedLinesFrom]
  | cons char rest ih =>
    rw [feedLinesFrom]
    split
    · rw [List.flatten_cons, ih, List.reverse_cons, List.append_assoc]
      rfl
    · rw [ih, List.reverse_cons, List.append_assoc]
      rfl

/-- The lines of a text make the text. -/
theorem flatten_feedLines (chars : List Char) : (feedLines chars).flatten = chars :=
  flatten_feedLinesFrom [] chars

/-- Up to the first line feed, characters go into the open line. -/
theorem feedLinesFrom_append {front : List Char} (h : '\n' ∉ front) (line rest : List Char) :
    feedLinesFrom line (front ++ '\n' :: rest) =
      (line.reverse ++ front ++ ['\n']) :: feedLinesFrom [] rest := by
  induction front generalizing line with
  | nil =>
    rw [List.nil_append, feedLinesFrom, if_pos (beq_self_eq_true _), List.reverse_cons,
      List.append_nil]
  | cons char others ih =>
    rw [List.mem_cons, not_or] at h
    obtain ⟨hchar, hothers⟩ := h
    rw [List.cons_append, feedLinesFrom, if_neg (beq_eq_false_iff_ne.mpr (Ne.symm hchar) ▸
      Bool.false_ne_true), ih hothers, List.reverse_cons, List.append_assoc line.reverse]
    rfl

/-- Characters without a line feed are an open line. -/
theorem feedLinesFrom_of_not_mem (h : '\n' ∉ rest) (line : List Char) :
    feedLinesFrom line rest = openLine (line.reverse ++ rest) := by
  induction rest generalizing line with
  | nil => rw [feedLinesFrom, openLine, List.append_nil, List.isEmpty_reverse]
  | cons char others ih =>
    rw [List.mem_cons, not_or] at h
    obtain ⟨hchar, hothers⟩ := h
    rw [feedLinesFrom, if_neg (beq_eq_false_iff_ne.mpr (Ne.symm hchar) ▸ Bool.false_ne_true),
      ih hothers, List.reverse_cons, List.append_assoc]
    rfl

/-- A text is cut into the lines that end in it and what stands behind them. -/
theorem feedLines_fed (h : ∀ line ∈ lines, '\n' ∉ line) (hrest : '\n' ∉ rest) :
    feedLines (fed lines ++ rest) = lines.map (· ++ ['\n']) ++ openLine rest := by
  induction lines with
  | nil => exact feedLinesFrom_of_not_mem hrest []
  | cons line others ih =>
    obtain ⟨hline, hothers⟩ := List.forall_mem_cons.mp h
    rw [fed, List.flatMap_cons, ← fed, List.append_assoc, List.append_assoc, List.singleton_append,
      feedLines, feedLinesFrom_append hline, List.map_cons]
    exact congrArg _ (ih hothers)

/-- Ended lines put together are cut where they end. -/
theorem feedLines_ended (h : ∀ line ∈ lines, '\n' ∉ line) :
    feedLines (fed lines) = lines.map (· ++ ['\n']) := by
  have hcut := feedLines_fed h (List.not_mem_nil : '\n' ∉ [])
  rw [List.append_nil] at hcut
  exact hcut.trans (List.append_nil _)

/-- Every text is lines that end in it and what stands behind them. -/
theorem exists_fed (chars : List Char) : ∃ lines rest,
    (∀ line ∈ lines, '\n' ∉ line) ∧ '\n' ∉ rest ∧ chars = fed lines ++ rest := by
  induction chars with
  | nil => exact ⟨[], [], List.forall_mem_nil _, List.not_mem_nil, rfl⟩
  | cons char chars ih =>
    obtain ⟨lines, rest, hlines, hrest, rfl⟩ := ih
    by_cases hfeed : char = '\n'
    · exact ⟨[] :: lines, rest, List.forall_mem_cons.mpr ⟨List.not_mem_nil, hlines⟩, hrest,
        congrArg (· :: _) hfeed⟩
    · cases lines with
      | nil =>
        exact ⟨[], char :: rest, hlines,
          List.not_mem_cons_of_ne_of_not_mem (Ne.symm hfeed) hrest, rfl⟩
      | cons line others =>
        obtain ⟨hline, hothers⟩ := List.forall_mem_cons.mp hlines
        exact ⟨(char :: line) :: others, rest, List.forall_mem_cons.mpr
          ⟨List.not_mem_cons_of_ne_of_not_mem (Ne.symm hfeed) hline, hothers⟩, hrest, rfl⟩

/-- A line without a line feed has none to lose. -/
theorem unfed_of_not_mem {line : List Char} (h : '\n' ∉ line) : unfed line = line :=
  List.filter_eq_self.mpr fun _ hchar => bne_iff_ne.mpr fun hfeed => h (hfeed ▸ hchar)

/-- A fed line loses its line feed. -/
theorem unfed_concat {line : List Char} (h : '\n' ∉ line) : unfed (line ++ ['\n']) = line := by
  rw [unfed, List.filter_append, ← unfed, unfed_of_not_mem h]
  exact List.append_nil line

theorem map_unfed_openLine (h : '\n' ∉ rest) : (openLine rest).map unfed = openLine rest := by
  unfold openLine
  split
  · rfl
  · rw [List.map_singleton, unfed_of_not_mem h]

/-- Fed lines lose their line feeds. -/
theorem map_unfed_fed (h : ∀ line ∈ lines, '\n' ∉ line) :
    (lines.map (· ++ ['\n'])).map unfed = lines := by
  rw [List.map_map]
  exact List.map_congr_left (fun line hline => unfed_concat (h line hline)) |>.trans lines.map_id

/-- The lines of a text are those that end in it and what stands behind them. -/
theorem bareLines_fed (h : ∀ line ∈ lines, '\n' ∉ line) (hrest : '\n' ∉ rest) :
    bareLines (fed lines ++ rest) = lines ++ openLine rest := by
  rw [bareLines, feedLines_fed h hrest, List.map_append, map_unfed_fed h, map_unfed_openLine hrest]

/-- The bare lines of fed lines are the lines. -/
theorem bareLines_ended (h : ∀ line ∈ lines, '\n' ∉ line) : bareLines (fed lines) = lines := by
  rw [bareLines, feedLines_ended h, map_unfed_fed h]

/-- Fed lines end with a line feed. -/
theorem getLast?_fed {lines : List (List Char)} (hne : lines ≠ []) :
    (fed lines).getLast? = some '\n' := by
  induction lines using List.reverseRecOn with
  | nil => exact absurd rfl hne
  | append_singleton front last _ =>
    rw [fed_append, fed_singleton, ← List.append_assoc, List.getLast?_concat]

end Cutting

section Parts

variable {lines front back : List (List Char)} {rest chars : List Char}

/-- Lines are parted between ended lines, or behind what stands behind them. -/
theorem parts_of_append_eq (h : front ++ back = lines.map (· ++ ['\n']) ++ openLine rest) :
    (∃ first second, lines = first ++ second ∧ front = first.map (· ++ ['\n']) ∧
        back = second.map (· ++ ['\n']) ++ openLine rest) ∨
      rest ≠ [] ∧ front = lines.map (· ++ ['\n']) ++ [rest] ∧ back = [] := by
  obtain ⟨more, hended, hback⟩ | ⟨more, rfl, hopen⟩ := List.append_eq_append_iff.mp h
  · obtain ⟨first, second, rfl, rfl, rfl⟩ := List.map_eq_append_iff.mp hended
    exact .inl ⟨first, second, rfl, rfl, hback⟩
  · unfold openLine at hopen
    split at hopen
    case isTrue hempty =>
      obtain ⟨rfl, rfl⟩ := List.append_eq_nil_iff.mp hopen.symm
      refine .inl ⟨lines, [], (List.append_nil lines).symm, List.append_nil _, ?_⟩
      rw [openLine, if_pos hempty]
      rfl
    case isFalse hne =>
      obtain ⟨rfl, rfl⟩ | ⟨rfl, rfl⟩ := List.append_eq_singleton_iff.mp hopen.symm
      · refine .inl ⟨lines, [], (List.append_nil lines).symm, List.append_nil _, ?_⟩
        rw [openLine, if_neg hne]
        rfl
      · exact .inr ⟨fun hnil => hne (List.isEmpty_iff.mpr hnil), rfl, rfl⟩

/-- Each line with its line feed, put together, is the fed lines. -/
theorem flatten_map_feed (lines : List (List Char)) :
    (lines.map (· ++ ['\n'])).flatten = fed lines := List.flatMap_def.symm

theorem flatten_openLine (rest : List Char) : (openLine rest).flatten = rest := by
  cases rest with
  | nil => rfl
  | cons char others => exact List.flatten_singleton

/-- The parts that one cut makes of a text are cut into the lines of its two sides. -/
theorem feedLines_of_parts (h : front ++ back = feedLines chars) :
    feedLines front.flatten = front ∧ feedLines back.flatten = back := by
  obtain ⟨lines, rest, hlines, hrest, rfl⟩ := exists_fed chars
  rw [feedLines_fed hlines hrest] at h
  obtain ⟨first, second, rfl, rfl, rfl⟩ | ⟨hne, rfl, rfl⟩ := parts_of_append_eq h
  · obtain ⟨hfirst, hsecond⟩ := List.forall_mem_append.mp hlines
    rw [List.flatten_append, flatten_map_feed, flatten_map_feed, flatten_openLine,
      feedLines_ended hfirst, feedLines_fed hsecond hrest]
    exact ⟨rfl, rfl⟩
  · rw [List.flatten_append, flatten_map_feed, List.flatten_singleton, feedLines_fed hlines hrest,
      openLine_of_ne_nil hne]
    exact ⟨rfl, rfl⟩

/-- A line has at most a line feed behind its other characters. -/
theorem exists_ending_of_mem_feedLines {line : List Char} (h : line ∈ feedLines chars) :
    ∃ ending, line = unfed line ++ ending := by
  obtain ⟨lines, rest, hlines, hrest, rfl⟩ := exists_fed chars
  rw [feedLines_fed hlines hrest] at h
  obtain hended | hopen := List.mem_append.mp h
  · obtain ⟨body, hbody, rfl⟩ := List.mem_map.mp hended
    exact ⟨['\n'], by rw [unfed_concat (hlines body hbody)]⟩
  · unfold openLine at hopen
    split at hopen
    · cases hopen
    · cases List.mem_singleton.mp hopen
      exact ⟨[], by rw [unfed_of_not_mem hrest, List.append_nil]⟩

/-- Between two lines there is a border. -/
theorem isLineBorder_of_parts (h : front ++ back = feedLines chars) :
    IsLineBorder front.flatten back.flatten := by
  obtain ⟨lines, rest, hlines, hrest, rfl⟩ := exists_fed chars
  rw [feedLines_fed hlines hrest] at h
  obtain ⟨first, second, rfl, rfl, rfl⟩ | ⟨-, -, rfl⟩ := parts_of_append_eq h
  · rw [flatten_map_feed]
    by_cases hnil : first = []
    · exact .inl (by rw [hnil]; rfl)
    · exact .inr (.inl (getLast?_fed hnil))
  · exact .inr (.inr rfl)

end Parts

end Scaffold.Text
