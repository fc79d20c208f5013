import Scaffold.Proofs.Yaml.Literal
import Scaffold.Proofs.Yaml.Steps
import Scaffold.Proofs.Yaml.Written
import Scaffold.Yaml.Node

/-!
# Written entries read back

A document of one entry is read as a mapping of its name to its text, whatever style the text is
written in. The scan meets the name, its colon and the text, and closes the mapping at the end.
-/

namespace Scaffold.Yaml

open Writing

/-- A name of an entry: it can stand plain, starts with a letter and is short enough for a key. -/
structure IsKey (name : String) : Prop where
  /-- It can stand plain. -/
  plain : canStandPlain name = true
  /-- It starts with a letter. -/
  letter : ∃ first rest, name.toList = first :: rest ∧ first.isAlpha = true
  /-- It is short enough. -/
  short : name.toList.length ≤ ScanState.keyLimit

namespace ScanState

/-- Behind the name of an entry at the start of a text, which starts at a spot. -/
def behindName (name : String) (first : Spot) (spots : List Spot) : ScanState :=
  ⟨spots, [.scalar .plain name], [], [some ⟨false, 0, first⟩], false⟩

/-- Behind the colon of an entry, which has made the name a key. -/
def behindColon (name : String) (spots : List Spot) : ScanState :=
  ⟨spots, [.value, .scalar .plain name, .key, .blockMappingStart], [0], [none], false⟩

/-- Behind the text of an entry. -/
def behindText (name : String) (style : ScalarStyle) (text : String) (keyAllowed : Bool)
    (spots : List Spot) : ScanState :=
  ⟨spots, [.scalar style text, .value, .scalar .plain name, .key, .blockMappingStart], [0], [none],
    keyAllowed⟩

section Entry

variable {name text : String} {first : Char} {rest : List Char}

/-- At the start, there is nothing to skip. -/
theorem advance_start (key : IsKey name) (tail : List Char) :
    (start (placeFrom 0 0 0 (name.toList ++ tail))).advance =
      some (start (placeFrom 0 0 0 (name.toList ++ tail))) := by
  obtain ⟨first, rest, hchars, hletter⟩ := key.letter
  have hword := (opensPlain_of_isAlpha hletter endMark).word
  rw [hchars, List.cons_append, placeFrom_of_not_lineEnd (isLineEnd_of_isWordStop hword),
    advance_of_word rfl hword (ne_of_isAlpha hletter rfl) (ne_of_isAlpha hletter rfl)]
  rfl

/-- The name of an entry is taken up to its colon. -/
theorem take_start (key : IsKey name) (tail : List Char) :
    ∃ first : Char, (start (placeFrom 0 0 0 (name.toList ++ ':' :: ' ' :: tail))).take =
      some (behindName name ⟨first, 0, 0, 0⟩
        (placeFrom name.toList.length 0 name.toList.length (':' :: ' ' :: tail))) := by
  obtain ⟨first, rest, hchars, hletter⟩ := key.letter
  obtain ⟨inWord, hscan⟩ := (plainRest_of_canStandPlain key.plain).exists_scanPlainFrom
    ⟨false, 0⟩ rfl [] (':' :: ' ' :: tail) 0 0 0
    (.inr ⟨first, by rw [hchars]; rfl, ne_of_isAlpha hletter rfl, ne_of_isAlpha hletter rfl⟩)
  have hplaces (tail : List Char) : placeFrom 0 0 0 (name.toList ++ tail) =
      ⟨first, 0, 0, 0⟩ :: placeFrom 1 0 1 (rest ++ tail) := by
    rw [hchars, List.cons_append, placeFrom_of_not_lineEnd
      (isLineEnd_of_isWordStop (opensPlain_of_isAlpha hletter endMark).word)]
  have hcolon : placeFrom (0 + name.toList.length) 0 (0 + name.toList.length)
      (':' :: ' ' :: tail) = ⟨':', name.toList.length, 0, name.toList.length⟩ ::
        ⟨' ', name.toList.length + 1, 0, name.toList.length + 1⟩ ::
          placeFrom (name.toList.length + 1 + 1) 0 (name.toList.length + 1 + 1) tail := by
    rw [Nat.zero_add]
    rfl
  rw [hcolon, scanPlainFrom_colon rfl rfl rfl, hplaces, List.append_nil, List.append_nil,
    List.reverse_reverse] at hscan
  refine ⟨first, ?_⟩
  rw [hplaces, take_of_opensPlain rfl]
  · rw [takeScalar_of_scan rfl hscan]
    simp only [String.ofList_toList]
    rfl
  · exact startsBoundary_of_char (ne_of_isAlpha hletter rfl) (ne_of_isAlpha hletter rfl) _
  · exact opensPlain_of_isAlpha hletter _

/-- A name of one line that is short enough is no stale candidate at its colon. -/
theorem advance_behindName {spot : Spot} {count : Nat}
    (short : count ≤ spot.index + keyLimit) (tail : List Char) :
    (behindName name spot (placeFrom count spot.line count (':' :: tail))).advance =
      some (behindName name spot (placeFrom count spot.line count (':' :: tail))) := by
  have hcolon : placeFrom count spot.line count (':' :: tail) =
      ⟨':', count, spot.line, count⟩ :: placeFrom (count + 1) spot.line (count + 1) tail := rfl
  have hhash : ':' ≠ '#' := by decide
  have hmark : ':' ≠ '\ufeff' := by decide
  have hfresh : (behindName name spot (⟨':', count, spot.line, count⟩ ::
      placeFrom (count + 1) spot.line (count + 1) tail)).isStale ⟨false, 0, spot⟩ = false := by
    change (decide (spot.line < spot.line) || decide (spot.index + keyLimit < count)) = false
    simp only [Bool.or_eq_false_iff, decide_eq_false_iff_not]
    omega
  rw [hcolon, advance_of_word rfl rfl hhash hmark, dropStale_of_fresh rfl hfresh]
  rfl

/-- The colon makes the name the key of a mapping. -/
theorem take_behindName (name : String) (spot : Spot) (column : spot.column = 0) (count : Nat)
    (tail : List Char) :
    (behindName name spot (placeFrom count 0 count (':' :: ' ' :: tail))).take =
      some (behindColon name (placeFrom (count + 1) 0 (count + 1) (' ' :: tail))) := by
  have hhyphen : ':' ≠ '-' := by decide
  have hpoint : ':' ≠ '.' := by decide
  rw [take_of_colon (startsBoundary_of_char hhyphen hpoint _) rfl rfl]
  obtain ⟨_, _, _, _⟩ := spot
  cases column
  rfl

/-- The space behind a colon is skipped. -/
theorem advance_behindColon (word : isWordStop first = false) (hash : first ≠ '#')
    (count : Nat) :
    (behindColon name (placeFrom count 0 count (' ' :: first :: rest))).advance =
      some (behindColon name (placeFrom (count + 1) 0 (count + 1) (first :: rest))) := by
  have hspace : isLineEnd ' ' = false := rfl
  rw [placeFrom_of_not_lineEnd hspace, placeFrom_of_not_lineEnd (isLineEnd_of_isWordStop word),
    advance_of_space rfl rfl word hash]
  rfl

/-- Nothing is left but the mark for the end, at the start of a line, and a line feed before it. -/
inductive Ends : List Spot → Prop
  /-- Only the mark is left. -/
  | mark (index line : Nat) : Ends [⟨endMark, index, line, 0⟩]
  /-- The line feed is left as well. -/
  | feed (index line column : Nat) : Ends (placeFrom index line column ['\n'])

/-- At the end of the text the mapping is closed. -/
theorem takeAll_behindText {style : ScalarStyle} {keyAllowed : Bool} {spots : List Spot}
    (ends : Ends spots) (count : Nat) :
    (behindText name style text keyAllowed spots).takeAll (count + 1) =
      some [.blockMappingStart, .key, .scalar .plain name, .value, .scalar style text,
        .blockEnd] := by
  cases ends with
  | mark index line => cases index <;> cases keyAllowed <;> rfl
  | feed index line column => cases index <;> cases keyAllowed <;> rfl

theorem noteCandidate_behindColon (spots : List Spot) :
    (behindColon name spots).noteCandidate = some (behindColon name spots) := rfl

theorem dropCandidate_behindColon (spots : List Spot) :
    (behindColon name spots).dropCandidate = some (behindColon name spots) := rfl

/-- Behind the colon no candidate is given up before a scalar is taken. -/
theorem takeScalar_behindColon {style : ScalarStyle} {scanner : List Spot → Option ScalarScan}
    {spots rest : List Spot} {crossedLine : Bool}
    (scans : scanner spots = some ⟨text.toList, crossedLine, rest⟩) :
    (behindColon name spots).takeScalar style scanner =
      some (behindText name style text crossedLine rest) := by
  rw [takeScalar_of_scan (noteCandidate_behindColon spots) scans]
  simp only [String.ofList_toList]
  rfl

/-- A block behind a colon is the text of the key. -/
theorem takeBlock_behindColon {spot : Spot} {spots rest : List Spot}
    (scans : scanBlock false (some 0) spots = some ⟨text.toList, false, rest⟩) :
    (behindColon name (spot :: spots)).takeBlock .literal =
      some (behindText name .literal text true rest) := by
  have hindent : (behindColon name (spot :: spots)).indent? = some 0 := rfl
  have hflat : (ScalarStyle.literal == .folded) = false := rfl
  have hbehind : (behindColon name (spot :: spots)).spots.tail = spots := rfl
  rw [takeBlock, dropCandidate_behindColon]
  simp only [Option.bind_eq_bind, Option.bind_some, hflat, hindent, hbehind, scans,
    String.ofList_toList]
  rfl

section Styles

variable {count : Nat} (inside : 0 < count)

include inside

/-- A plain text behind a colon is the text of the key. -/
theorem take_behindColon_plain (stands : canStandPlain text = true)
    (nonempty : text.toList ≠ []) :
    ∃ keyAllowed spots, Ends spots ∧
      (behindColon name (placeFrom count 0 count (text.toList ++ ['\n']))).take =
        some (behindText name .plain text keyAllowed spots) := by
  obtain ⟨first, rest, hchars⟩ := List.exists_cons_of_ne_nil nonempty
  have hopens := opensPlain_of_canStandPlain stands hchars
  have hplaces : placeFrom count 0 count (text.toList ++ ['\n']) =
      ⟨first, count, 0, count⟩ :: placeFrom (count + 1) 0 (count + 1) (rest ++ ['\n']) := by
    rw [hchars, List.cons_append, placeFrom_of_not_lineEnd (isLineEnd_of_isWordStop hopens.word)]
  have hfirst : OpensPlain first (peek (placeFrom (count + 1) 0 (count + 1) (rest ++ ['\n']))) := by
    rw [peek_placeFrom]
    exact hopens.feed
  have htake : (behindColon name (⟨first, count, 0, count⟩ ::
      placeFrom (count + 1) 0 (count + 1) (rest ++ ['\n']))).take =
        takeScalar .plain (scanPlain ⟨false, 1⟩) (behindColon name _) :=
    take_of_opensPlain rfl (startsBoundary_of_column_pos inside _) hfirst
  obtain ⟨index', line', hscan⟩ :=
    (plainRest_of_canStandPlain stands).exists_scanPlain ⟨false, 1⟩ rfl count 0 inside
  rw [hplaces] at hscan ⊢
  exact ⟨true, _, .mark index' line', htake.trans (takeScalar_behindColon hscan)⟩

/-- A literal text behind a colon is the text of the key. -/
theorem take_behindColon_literal (shown : needsEscapes text.toList = false)
    (bound : IsBound text.toList) :
    ∃ keyAllowed spots, Ends spots ∧
      (behindColon name (placeFrom count 0 count (literal text.toList ++ ['\n']))).take =
        some (behindText name .literal text keyAllowed spots) := by
  obtain ⟨index', line', hscan⟩ := exists_scanBlock_literal bound.nonempty
    (isPrintable_of_needsEscapes shown).1 bound.first bound.last (count + 1) 0 (count + 1)
  have hplaces : placeFrom count 0 count (literal text.toList ++ ['\n']) =
      ⟨'|', count, 0, count⟩ ::
        placeFrom (count + 1) 0 (count + 1) ((literal text.toList).tail ++ ['\n']) := rfl
  refine ⟨true, [⟨endMark, index', line', 0⟩], .mark index' line', ?_⟩
  rw [hplaces, take_of_bar (startsBoundary_of_column_pos inside _) rfl rfl]
  exact takeBlock_behindColon hscan

/-- A text in single quotes behind a colon is the text of the key. -/
theorem take_behindColon_single (shown : needsEscapes text.toList = false)
    (feed : '\n' ∉ text.toList) (after : hasSpaceAfterEnd text.toList = false) :
    ∃ keyAllowed spots, Ends spots ∧
      (behindColon name (placeFrom count 0 count (singleQuoted text.toList ++ ['\n']))).take =
        some (behindText name .singleQuoted text keyAllowed spots) := by
  obtain ⟨hshown, hbefore⟩ := isPrintable_of_needsEscapes shown
  have hrest : SingleRest .empty text.toList :=
    ⟨fun char hmem => ⟨hshown char hmem, fun h => feed (h ▸ hmem)⟩,
      .inl ⟨[], rfl, List.forall_mem_nil _⟩, hbefore, after⟩
  obtain ⟨index', line', column', hscan⟩ := hrest.scanSingleFrom [] (count + 1) 0
    (iff_of_false (Nat.succ_ne_zero count) Bool.false_ne_true)
  have hplaces : placeFrom count 0 count (singleQuoted text.toList ++ ['\n']) =
      ⟨singleQuote, count, 0, count⟩ :: placeFrom (count + 1) 0 (count + 1)
        (indentLines Gap.empty.isBroken (doubleQuotes text.toList ++ [singleQuote]) ++ ['\n']) :=
    rfl
  refine ⟨false, _, .feed index' line' column', ?_⟩
  rw [hplaces, take_of_singleQuote (startsBoundary_of_column_pos inside _) rfl]
  exact takeScalar_behindColon ((scanQuoted_single rfl _).trans hscan)

/-- A text in double quotes behind a colon is the text of the key. -/
theorem take_behindColon_double :
    ∃ keyAllowed spots, Ends spots ∧
      (behindColon name (placeFrom count 0 count (doubleQuoted text.toList ++ ['\n']))).take =
        some (behindText name .doubleQuoted text keyAllowed spots) := by
  obtain ⟨index', column', hscan⟩ :=
    exists_scanDoubleFrom text.toList [] [] (count + 1) 0 (Nat.succ_pos count)
  have hplaces : placeFrom count 0 count (doubleQuoted text.toList ++ ['\n']) =
      ⟨doubleQuote, count, 0, count⟩ :: placeFrom (count + 1) 0 (count + 1)
        (text.toList.flatMap escape ++ ([doubleQuote] ++ ['\n'])) := by
    rw [doubleQuoted, List.append_assoc]
    rfl
  refine ⟨false, _, .feed index' 0 column', ?_⟩
  rw [hplaces, take_of_doubleQuote (startsBoundary_of_column_pos inside _) rfl]
  exact takeScalar_behindColon ((scanQuoted_double rfl _).trans hscan)

/-- The text of an entry is taken up to its end. -/
theorem take_behindColon (name : String) {style : ScalarStyle} {written : List Char}
    (h : Written text style written) (bound : IsBound text.toList) :
    ∃ keyAllowed spots, Ends spots ∧
      (behindColon name (placeFrom count 0 count (written ++ ['\n']))).take =
        some (behindText name style text keyAllowed spots) := by
  cases h with
  | plain _ stands => exact take_behindColon_plain inside stands bound.nonempty
  | literal shown => exact take_behindColon_literal inside shown bound
  | single shown feed after => exact take_behindColon_single inside shown feed after
  | double => exact take_behindColon_double inside

end Styles

/-- A written scalar starts with a character of a word that starts no comment. -/
theorem opening_of_written {style : ScalarStyle} {written : List Char}
    (h : Written text style written) (bound : IsBound text.toList) :
    ∃ first rest, written = first :: rest ∧ isWordStop first = false ∧ first ≠ '#' := by
  cases h with
  | plain reads stands =>
    cases hchars : text.toList with
    | nil => exact absurd hchars bound.nonempty
    | cons first rest =>
      have hopens := opensPlain_of_canStandPlain stands hchars
      exact ⟨first, rest, rfl, hopens.word, hopens.ne rfl⟩
  | literal => exact ⟨_, _, rfl, rfl, by decide⟩
  | single => exact ⟨_, _, rfl, rfl, by decide⟩
  | double => exact ⟨_, _, rfl, rfl, by decide⟩

/-- The tokens of an entry. -/
theorem takeAll_entry {style : ScalarStyle} {written : List Char} (key : IsKey name)
    (h : Written text style written) (bound : IsBound text.toList) {count : Nat}
    (enough : 4 ≤ count) :
    (start (placeFrom 0 0 0 (name.toList ++ ':' :: ' ' :: (written ++ ['\n'])))).takeAll count =
      some [.blockMappingStart, .key, .scalar .plain name, .value, .scalar style text,
        .blockEnd] := by
  obtain ⟨more, rfl⟩ : ∃ more, count = more + 1 + 1 + 1 + 1 := ⟨count - 4, by omega⟩
  obtain ⟨first, rest, rfl, hword, hhash⟩ := opening_of_written h bound
  rw [List.cons_append]
  obtain ⟨initial, hname⟩ := take_start key (first :: (rest ++ ['\n']))
  have hcolon := take_behindName name ⟨initial, 0, 0, 0⟩ rfl name.toList.length
    (first :: (rest ++ ['\n']))
  obtain ⟨keyAllowed, spots, hends, htext⟩ :=
    take_behindColon (Nat.succ_pos (name.toList.length + 1)) name h bound
  rw [List.cons_append] at htext
  have hstart : (start (placeFrom 0 0 0
      (name.toList ++ ':' :: ' ' :: first :: (rest ++ ['\n'])))).here.char ≠ endMark := by
    obtain ⟨letter, _, hchars, hletter⟩ := key.letter
    rw [hchars]
    exact ne_of_isAlpha hletter rfl
  have hfirst : first ≠ endMark := by
    rintro rfl
    cases hword
  have hcolonMark : ':' ≠ endMark := by decide
  have hshort : name.toList.length ≤ 0 + keyLimit := by
    rw [Nat.zero_add]
    exact key.short
  rw [takeAll_take (advance_start key _) hstart hname,
    takeAll_take (advance_behindName hshort _) hcolonMark hcolon,
    takeAll_take (advance_behindColon hword hhash _) hfirst htext, takeAll_behindText hends]

end Entry

end ScanState

/-- The tokens of a written entry. -/
theorem tokens?_entry {name text : String} (key : IsKey name) (bound : IsBound text.toList) :
    tokens? (entry name text) = some [.blockMappingStart, .key, .scalar .plain name, .value,
      .scalar (style text) text, .blockEnd] := by
  have hshown : ∀ char ∈ (entry name text).toList, isPrintable char = true := by
    intro char hmem
    rw [toList_entry bound, List.mem_append, List.mem_cons, List.mem_cons, List.mem_append,
      List.mem_singleton] at hmem
    obtain hmem | rfl | rfl | hmem | rfl := hmem
    · exact ((plainRest_of_canStandPlain key.plain).shown char hmem).1
    · rfl
    · rfl
    · exact (written_scalar text).isPrintable char hmem
    · rfl
  have hallowed : (entry name text).toList.all isAllowed = true :=
    List.all_eq_true.mpr fun char hmem => isAllowed_of_isPrintable (hshown char hmem)
  have hfeeds : unifyFeeds (entry name text).toList = (entry name text).toList :=
    unifyFeeds_eq_self fun char hmem =>
      ⟨ne_of_isPrintable (hshown char hmem) rfl, ne_of_isPrintable (hshown char hmem) rfl⟩
  have hlong : 4 ≤ (placeFrom 0 0 0
      (name.toList ++ ':' :: ' ' :: (scalar text ++ ['\n']))).length + 1 := by
    rw [length_placeFrom]
    simp only [List.length_append, List.length_cons]
    omega
  rw [tokens?, spots?, if_pos hallowed, hfeeds, toList_entry bound]
  exact ScanState.takeAll_entry key (written_scalar text) bound hlong

/-- A written entry is read as a mapping of its name to its text. -/
theorem document?_entry {name text : String} (key : IsKey name) (bound : IsBound text.toList) :
    document? (entry name text) =
      some ⟨.mapping none [(.scalar none .plain name, .scalar none (style text) text)], [], 4⟩ := by
  rw [document?, tokens?_entry key bound]
  rfl

end Scaffold.Yaml
