import Scaffold.Proofs.Yaml.Plain
import Scaffold.Yaml.Tokens

/-!
# Steps of the scan

The scan goes on to the start of a word and takes the token that starts there. What the token is
depends on the first two characters: a few of them are indicators and quotes, all others open a
plain scalar.
-/

namespace Scaffold.Yaml

open Writing

/-- What starts as no indicator can start a plain scalar, with `next` as its second character. -/
structure OpensPlain (first next : Char) : Prop where
  /-- It is none of the indicators that need nothing behind them. -/
  opening : openingIndicators.contains first = false
  /-- Those that need a space behind them have none. -/
  indicator : (['?', ':', '-'].contains first && isWordStop next) = false
  /-- It belongs to a word. -/
  word : isWordStop first = false

namespace OpensPlain

variable {first next : Char}

theorem ne (h : OpensPlain first next) {other : Char}
    (hother : (openingIndicators.contains other || isWordStop other) = true) : first ≠ other := by
  rintro rfl
  rw [h.opening, h.word] at hother
  cases hother

theorem startsPlain (h : OpensPlain first next) :
    ScanState.startsPlain false first next = true := by
  unfold ScanState.startsPlain
  by_cases hlead : first ∈ ['?', ':', '-']
  · have hindicator := h.indicator
    rw [List.contains_iff_mem.mpr hlead, Bool.true_and] at hindicator
    have hspacing : isSpacing next = false := by
      rw [isWordStop, Bool.or_eq_false_iff] at hindicator
      exact hindicator.1
    rw [hindicator, hspacing]
    simp only [List.mem_cons, List.not_mem_nil, or_false] at hlead
    obtain rfl | rfl | rfl := hlead <;> rfl
  · have hmarks : ['-', '?', ':', ',', '[', ']', '\x7b', '\x7d', '#', '&', '*', '!', '|', '>',
        '\x27', '\x22', '%', '@', '\x60'].all (fun other =>
          ['?', ':', '-'].contains other || openingIndicators.contains other) = true := by decide
    have hnone : ¬ ['-', '?', ':', ',', '[', ']', '\x7b', '\x7d', '#', '&', '*', '!', '|', '>',
        '\x27', '\x22', '%', '@', '\x60'].contains first = true := by
      intro hmark
      have hindicator := List.all_eq_true.mp hmarks first (List.contains_iff_mem.mp hmark)
      rw [h.opening, Bool.or_false] at hindicator
      exact hlead (List.contains_iff_mem.mp hindicator)
    rw [h.word, Bool.eq_false_iff.mpr hnone]
    rfl

/-- A line feed behind a text opens nothing that the end does not. -/
theorem feed {rest : List Char} (h : OpensPlain first (rest.headD endMark)) :
    OpensPlain first ((rest ++ ['\n']).headD endMark) := by
  cases rest with
  | nil => exact ⟨h.opening, h.indicator, h.word⟩
  | cons => exact h

end OpensPlain

/-- A text that can stand plain starts as no indicator. -/
theorem opensPlain_of_canStandPlain {text : String} (h : canStandPlain text = true) {first : Char}
    {rest : List Char} (chars : text.toList = first :: rest) :
    OpensPlain first (rest.headD endMark) := by
  have hrest := plainRest_of_canStandPlain h
  simp only [canStandPlain, chars, startsAsIndicator, Bool.and_eq_true, Bool.not_eq_true',
    Bool.or_eq_false_iff, bne_iff_ne] at h
  obtain ⟨⟨⟨⟨-, ⟨⟨hopening, hindicator⟩, -⟩, -⟩, -⟩, hspace⟩, -⟩ := h
  obtain ⟨hshown, hline⟩ := hrest.shown first (by rw [chars]; exact List.mem_cons_self)
  refine ⟨hopening, hindicator, ?_⟩
  have hword : (first == ' ') = false := beq_eq_false_iff_ne.mpr fun h => hspace (congrArg some h)
  rw [isWordStop, isLineStop, isSpacing_of_isPrintable hshown, hline,
    ne_endMark_of_isPrintable hshown, hword]
  rfl

theorem ne_of_isAlpha {first other : Char} (h : first.isAlpha = true)
    (hother : other.isAlpha = false) : first ≠ other := by
  rintro rfl
  rw [h] at hother
  cases hother

/-- A letter opens a plain scalar. -/
theorem opensPlain_of_isAlpha {first : Char} (h : first.isAlpha = true) (next : Char) :
    OpensPlain first next := by
  have hnone (marks : List Char) (hmarks : marks.any Char.isAlpha = false) :
      marks.contains first = false := by
    rw [Bool.eq_false_iff]
    intro hmark
    rw [List.any_eq_true.mpr ⟨first, List.contains_iff_mem.mp hmark, h⟩] at hmarks
    cases hmarks
  have hne (other : Char) (hother : other.isAlpha = false) : (first == other) = false :=
    beq_eq_false_iff_ne.mpr (ne_of_isAlpha h hother)
  refine ⟨hnone _ (by decide), ?_, ?_⟩
  · rw [hnone _ (by decide), Bool.false_and]
  · simp only [isWordStop, isSpacing, isLineStop, isLineEnd, hne ' ' rfl, hne '\t' rfl,
      hne '\n' rfl, hne '\u2028' rfl, hne '\u2029' rfl, hne endMark rfl, Bool.or_self]

theorem isLineEnd_of_isWordStop {char : Char} (h : isWordStop char = false) :
    isLineEnd char = false := by
  simp only [isWordStop, isLineStop, Bool.or_eq_false_iff] at h
  exact h.2.1

/-- A single quote opens a text in single quotes. -/
theorem scanQuoted_single {spot : Spot} (quote : spot.char = singleQuote) (spots : List Spot) :
    scanQuoted (spot :: spots) = scanSingleFrom [] .empty spots := by
  have hquote : (peek (spot :: spots) == singleQuote) = true := beq_iff_eq.mpr quote
  rw [scanQuoted, if_pos hquote]
  rfl

/-- A double quote opens a text in double quotes. -/
theorem scanQuoted_double {spot : Spot} (quote : spot.char = doubleQuote) (spots : List Spot) :
    scanQuoted (spot :: spots) = scanDoubleFrom [] .empty .ordinary spots := by
  have hother : ¬ (peek (spot :: spots) == singleQuote) = true := by
    rw [peek, quote]
    decide
  rw [scanQuoted, if_neg hother]
  rfl

namespace ScanState

section Steps

variable {state next after : ScanState}

/-- One token is taken before the others. -/
theorem takeAll_take {count : Nat} (advance : state.advance = some next)
    (more : next.here.char ≠ endMark) (take : next.take = some after) :
    state.takeAll (count + 1) = after.takeAll count := by
  have hmore : (next.here.char == endMark) = false := beq_eq_false_iff_ne.mpr more
  rw [takeAll, advance]
  simp only [Option.bind_eq_bind, Option.bind_some, hmore, Bool.false_eq_true, if_false, take]

/-- A scalar that is scanned is taken. -/
theorem takeScalar_of_scan {style : ScalarStyle} {scanner : List Spot → Option ScalarScan}
    {scan : ScalarScan} (note : state.noteCandidate = some next)
    (scans : scanner next.spots = some scan) :
    state.takeScalar style scanner =
      some (((next.push (.scalar style (String.ofList scan.text))).goTo scan.rest).allowKey
        scan.crossedLine) := by
  rw [takeScalar, note]
  simp only [Option.bind_eq_bind, Option.bind_some, scans]
  rfl

section Indicators

variable (boundary : startsBoundary state.spots = false)

include boundary

/-- A colon before a space is taken as the one before a value. -/
theorem take_of_colon (colon : state.here.char = ':')
    (stop : isWordStop (peekSecond state.spots) = true) : state.take = state.takeValue := by
  rw [startsBoundary, Bool.or_eq_false_iff] at boundary
  simp [take, colon, boundary, stop]

/-- A bar opens a literal text. -/
theorem take_of_bar (outside : state.inFlow = false) (bar : state.here.char = '|') :
    state.take = state.takeBlock .literal := by
  rw [startsBoundary, Bool.or_eq_false_iff] at boundary
  simp [take, bar, boundary, outside]

/-- A single quote opens a scalar. -/
theorem take_of_singleQuote (quote : state.here.char = singleQuote) :
    state.take = state.takeScalar .singleQuoted scanQuoted := by
  rw [startsBoundary, Bool.or_eq_false_iff] at boundary
  simp [take, quote, singleQuote, boundary]

/-- A double quote opens a scalar. -/
theorem take_of_doubleQuote (quote : state.here.char = doubleQuote) :
    state.take = state.takeScalar .doubleQuoted scanQuoted := by
  rw [startsBoundary, Bool.or_eq_false_iff] at boundary
  simp [take, quote, singleQuote, doubleQuote, boundary]

end Indicators

/-- A plain scalar is taken where no indicator stands. -/
theorem take_of_opensPlain (outside : state.inFlow = false)
    (boundary : startsBoundary state.spots = false)
    (opens : OpensPlain state.here.char (peekSecond state.spots)) :
    state.take = state.takeScalar .plain (scanPlain state.plainSetting) := by
  have hne (other : Char) (h : (openingIndicators.contains other || isWordStop other) = true) :
      (state.here.char == other) = false := beq_eq_false_iff_ne.mpr (opens.ne h)
  have hindicator (other : Char) (h : other ∈ ['?', ':', '-']) :
      (state.here.char == other && isWordStop (peekSecond state.spots)) = false := by
    by_cases hsame : state.here.char = other
    · have hindicator := opens.indicator
      rw [List.contains_iff_mem.mpr (hsame ▸ h), Bool.true_and] at hindicator
      rw [hindicator, Bool.and_false]
    · rw [beq_eq_false_iff_ne.mpr hsame, Bool.false_and]
  rw [startsBoundary, Bool.or_eq_false_iff] at boundary
  unfold take
  simp only [outside, boundary.1, boundary.2, opens.startsPlain, hne '[' rfl, hne ']' rfl,
    hne '\x7b' rfl, hne '\x7d' rfl, hne ',' rfl, hne '*' rfl, hne '&' rfl, hne '!' rfl, hne '|' rfl,
    hne '>' rfl, hne '%' rfl, hne singleQuote rfl, hne doubleQuote rfl,
    hindicator '?' (by decide), hindicator ':' (by decide), hindicator '-' (by decide),
    Bool.and_false, Bool.false_and, Bool.false_or, Bool.false_eq_true, if_false, if_true]

end Steps

/-- The scan does not go on where a word starts. -/
theorem skipSpacing_of_word {inFlow keyAllowed : Bool} {spot : Spot} {rest : List Spot}
    (word : isWordStop spot.char = false) (hash : spot.char ≠ '#') :
    skipSpacing inFlow keyAllowed false (spot :: rest) = (spot :: rest, keyAllowed) := by
  simp only [isWordStop, isLineStop, isSpacing, Bool.or_eq_false_iff] at word
  obtain ⟨⟨hspace, htab⟩, hline, hmark⟩ := word
  rw [skipSpacing, hline, hmark, hspace, htab, beq_eq_false_iff_ne.mpr hash]
  rfl

/-- Nothing is gone over where a word starts. -/
theorem advance_of_word {state : ScanState} {spot : Spot} {rest : List Spot}
    (here : state.spots = spot :: rest) (word : isWordStop spot.char = false)
    (hash : spot.char ≠ '#') (mark : spot.char ≠ '\ufeff') :
    state.advance = do
      let state ← state.dropStale
      return state.closeIndents (· ≤ state.here.column) := by
  obtain ⟨spots, reversed, indents, candidates, keyAllowed⟩ := state
  cases here
  have hmark : (spot.index == 0 && spot.char == '\ufeff') = false := by
    rw [beq_eq_false_iff_ne.mpr mark, Bool.and_false]
  unfold advance
  simp only [hmark, Bool.false_eq_true, if_false, skipSpacing_of_word word hash]

/-- A space before a word is gone over. -/
theorem advance_of_space {state : ScanState} {space spot : Spot} {rest : List Spot}
    (here : state.spots = space :: spot :: rest) (blank : space.char = ' ')
    (word : isWordStop spot.char = false) (hash : spot.char ≠ '#') :
    state.advance = do
      let state ← (state.goTo (spot :: rest)).dropStale
      return state.closeIndents (· ≤ state.here.column) := by
  obtain ⟨spots, reversed, indents, candidates, keyAllowed⟩ := state
  cases here
  have hmark : (space.index == 0 && space.char == '\ufeff') = false := by
    rw [blank, Bool.and_eq_false_iff]
    exact .inr rfl
  have hskip (inFlow : Bool) : skipSpacing inFlow keyAllowed false (space :: spot :: rest) =
      (spot :: rest, keyAllowed) := by
    rw [skipSpacing, blank]
    exact skipSpacing_of_word word hash
  unfold advance
  simp only [hmark, Bool.false_eq_true, if_false, hskip, goTo]

/-- A lone candidate that lies near enough stays. -/
theorem dropStale_of_fresh {state : ScanState} {candidate : KeyCandidate}
    (alone : state.candidates = [some candidate]) (fresh : state.isStale candidate = false) :
    state.dropStale = some state := by
  obtain ⟨spots, reversed, indents, candidates, keyAllowed⟩ := state
  cases alone
  unfold dropStale
  simp only [List.mapM_cons, List.mapM_nil, fresh, Bool.false_eq_true, if_false]
  rfl

end ScanState

end Scaffold.Yaml
