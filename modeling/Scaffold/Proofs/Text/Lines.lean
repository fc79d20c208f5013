import Mathlib.Data.List.DropRight
import Scaffold.Text.Lines

/-!
# Cutting texts into lines

A relation says what the lines of a text are, with one case for each terminator, and the scanner
finds exactly these lines. The lines put together are the text, so different texts have different
lines. A line feed stands only at the end of a line.
-/

namespace Scaffold.Text

/-- Characters among which no line ends. -/
def IsUnbroken (chars : List Char) : Prop := ∀ char ∈ chars, char ≠ '\n' ∧ char ≠ '\r'

/-- A text and its lines. A line ends after a line feed, a carriage return with a line feed, or a
carriage return that no line feed follows; what is left at the end is a line without terminator. -/
inductive CutIntoLines : List Char → List String → Prop
  | nothing : CutIntoLines [] []
  | unterminated {line : List Char} (unbroken : IsUnbroken line) (nonempty : line ≠ []) :
    CutIntoLines line [String.ofList line]
  | feed {line rest : List Char} {lines : List String} (unbroken : IsUnbroken line)
    (cut : CutIntoLines rest lines) :
    CutIntoLines (line ++ '\n' :: rest) (String.ofList (line ++ ['\n']) :: lines)
  | returnFeed {line rest : List Char} {lines : List String} (unbroken : IsUnbroken line)
    (cut : CutIntoLines rest lines) :
    CutIntoLines (line ++ '\r' :: '\n' :: rest) (String.ofList (line ++ ['\r', '\n']) :: lines)
  | loneReturn {line rest : List Char} {lines : List String} (unbroken : IsUnbroken line)
    (lone : rest.head? ≠ some '\n') (cut : CutIntoLines rest lines) :
    CutIntoLines (line ++ '\r' :: rest) (String.ofList (line ++ ['\r']) :: lines)

theorem IsUnbroken.nil : IsUnbroken [] := fun _ hchar => nomatch hchar

/-- A character at which no line ends breaks no line. -/
theorem IsUnbroken.cons {char : Char} {chars : List Char} (hfeed : char ≠ '\n')
    (hreturn : char ≠ '\r') (unbroken : IsUnbroken chars) : IsUnbroken (char :: chars) :=
  List.forall_mem_cons.mpr ⟨⟨hfeed, hreturn⟩, unbroken⟩

/-- A line is unbroken from back to front as well. -/
theorem IsUnbroken.reverse {chars : List Char} (unbroken : IsUnbroken chars) :
    IsUnbroken chars.reverse :=
  fun char hchar => unbroken char (List.mem_reverse.mp hchar)

/-- The scanner finds the lines of the open line followed by the characters left to scan. -/
theorem cutIntoLines_terminatedLinesFrom (line chars : List Char) (unbroken : IsUnbroken line) :
    CutIntoLines (line.reverse ++ chars) ((terminatedLinesFrom line chars).map String.ofList) := by
  fun_induction terminatedLinesFrom line chars with
  | case1 line hempty =>
    have hline : line = [] := List.isEmpty_iff.mp hempty
    rw [hline]
    exact .nothing
  | case2 line hempty =>
    have hline : line.reverse ≠ [] := by simpa using hempty
    rw [List.append_nil]
    exact .unterminated unbroken.reverse hline
  | case3 line rest ih =>
    have h := CutIntoLines.returnFeed unbroken.reverse (ih .nil)
    simpa using h
  | case4 line char rest hnotBoth hends ih =>
    have hrest := ih .nil
    rw [List.reverse_nil, List.nil_append] at hrest
    rw [List.map_cons, List.reverse_cons]
    rw [Bool.or_eq_true, beq_iff_eq, beq_iff_eq] at hends
    rcases hends with rfl | rfl
    · exact .feed unbroken.reverse hrest
    · refine .loneReturn unbroken.reverse ?_ hrest
      intro hhead
      obtain ⟨others, rfl⟩ := List.head?_eq_some_iff.mp hhead
      exact hnotBoth others rfl rfl
  | case5 line char rest hnotBoth hends ih =>
    rw [Bool.or_eq_true, beq_iff_eq, beq_iff_eq, not_or] at hends
    have h := ih (unbroken.cons hends.1 hends.2)
    rwa [List.reverse_cons, List.append_assoc, List.singleton_append] at h

/-- The lines of a text are what the scanner finds. -/
theorem cutIntoLines_terminatedLines (text : String) :
    CutIntoLines text.toList (terminatedLines text) :=
  cutIntoLines_terminatedLinesFrom [] text.toList .nil

/-- The scanner takes characters among which no line ends into the open line. -/
theorem terminatedLinesFrom_append {body : List Char} (unbroken : IsUnbroken body)
    (line rest : List Char) :
    terminatedLinesFrom line (body ++ rest) = terminatedLinesFrom (body.reverse ++ line) rest := by
  induction body generalizing line with
  | nil => rfl
  | cons char body ih =>
    obtain ⟨⟨hfeed, hreturn⟩, hbody⟩ := List.forall_mem_cons.mp unbroken
    have hopen : terminatedLinesFrom line (char :: (body ++ rest)) =
        terminatedLinesFrom (char :: line) (body ++ rest) := by
      simp [terminatedLinesFrom, hfeed, hreturn]
    rw [List.cons_append, hopen, ih hbody, List.reverse_cons, List.append_assoc,
      List.singleton_append]

/-- A text has no other lines than those that the scanner finds. -/
theorem CutIntoLines.eq_terminatedLinesFrom {chars : List Char} {lines : List String}
    (cut : CutIntoLines chars lines) :
    lines = (terminatedLinesFrom [] chars).map String.ofList := by
  induction cut with
  | nothing => rfl
  | @unterminated line unbroken nonempty =>
    have h := terminatedLinesFrom_append unbroken [] []
    rw [List.append_nil, List.append_nil] at h
    simp [h, terminatedLinesFrom, nonempty]
  | feed unbroken _ ih =>
    rw [terminatedLinesFrom_append unbroken, ih]
    simp [terminatedLinesFrom]
  | returnFeed unbroken _ ih =>
    rw [terminatedLinesFrom_append unbroken, ih]
    simp [terminatedLinesFrom]
  | @loneReturn line rest lines unbroken lone _ ih =>
    rw [terminatedLinesFrom_append unbroken, ih]
    cases rest with
    | nil => simp [terminatedLinesFrom]
    | cons next rest =>
      have hnext : next ≠ '\n' := fun h => lone (congrArg some h)
      simp [terminatedLinesFrom, hnext]

/-- A list of lines is the one that the scanner finds exactly if the text is cut into it. -/
theorem cutIntoLines_iff {text : String} {lines : List String} :
    CutIntoLines text.toList lines ↔ lines = terminatedLines text :=
  ⟨CutIntoLines.eq_terminatedLinesFrom, fun h => h ▸ cutIntoLines_terminatedLines text⟩

/-- The lines of a text put together are the text. -/
theorem CutIntoLines.flatMap_eq {chars : List Char} {lines : List String}
    (cut : CutIntoLines chars lines) : lines.flatMap String.toList = chars := by
  induction cut with
  | nothing => rfl
  | unterminated => simp
  | feed _ _ ih => simp [ih]
  | returnFeed _ _ ih => simp [ih]
  | loneReturn _ _ _ ih => simp [ih]

/-- Texts with the same lines are equal. -/
theorem terminatedLines_injective : Function.Injective terminatedLines := by
  intro text other h
  have htext := (cutIntoLines_terminatedLines text).flatMap_eq
  have hother := (cutIntoLines_terminatedLines other).flatMap_eq
  rw [h, hother] at htext
  exact String.toList_injective htext.symm

/-- The line without a line feed at its very end. -/
def withoutLastFeed (line : String) : String :=
  if line.toList.getLast? = some '\n' then String.ofList line.toList.dropLast else line

/-- A line feed stands only at the end of a line. -/
theorem CutIntoLines.feed_notMem_dropLast {chars : List Char} {lines : List String}
    (cut : CutIntoLines chars lines) {line : String} (hline : line ∈ lines) :
    '\n' ∉ line.toList.dropLast := by
  have hunbroken {chars : List Char} (unbroken : IsUnbroken chars) : '\n' ∉ chars :=
    fun hfeed => (unbroken _ hfeed).1 rfl
  induction cut with
  | nothing => exact nomatch hline
  | unterminated unbroken =>
    rw [List.mem_singleton.mp hline, String.toList_ofList]
    exact fun hfeed => hunbroken unbroken ((List.dropLast_sublist _).subset hfeed)
  | feed unbroken _ ih =>
    rcases List.mem_cons.mp hline with rfl | hlines
    · simpa using hunbroken unbroken
    · exact ih hlines
  | returnFeed unbroken _ ih =>
    rcases List.mem_cons.mp hline with rfl | hlines
    · simpa [List.dropLast_append] using hunbroken unbroken
    · exact ih hlines
  | loneReturn unbroken _ _ ih =>
    rcases List.mem_cons.mp hline with rfl | hlines
    · simpa using hunbroken unbroken
    · exact ih hlines

/-- Of a line only one line feed can be taken away. -/
theorem withoutFeed_eq_withoutLastFeed {line : String} (honly : '\n' ∉ line.toList.dropLast) :
    withoutFeed line = withoutLastFeed line := by
  rcases List.eq_nil_or_concat line.toList with hnil | ⟨front, last, hconcat⟩
  · rw [String.toList_eq_nil_iff.mp hnil]
    rfl
  rw [List.concat_eq_append] at hconcat
  rw [hconcat, List.dropLast_concat] at honly
  have hfeeds : withoutFeed line = String.ofList ((front ++ [last]).rdropWhile (· == '\n')) := by
    rw [← hconcat, withoutFeed, List.rdropWhile]
  rw [hfeeds, List.rdropWhile_concat, withoutLastFeed, hconcat, List.getLast?_concat,
    List.dropLast_concat]
  by_cases hlast : last = '\n'
  · have hfront : front.rdropWhile (· == '\n') = front := by
      refine List.rdropWhile_eq_self_iff.mpr fun hne hfeed => honly ?_
      rw [← beq_iff_eq.mp hfeed]
      exact List.getLast_mem hne
    rw [if_pos (beq_iff_eq.mpr hlast), if_pos (congrArg some hlast), hfront]
  · have hnone : some last ≠ some '\n' := fun h => hlast (Option.some.inj h)
    rw [if_neg (mt beq_iff_eq.mp hlast), if_neg hnone, ← hconcat, String.ofList_toList]

end Scaffold.Text
