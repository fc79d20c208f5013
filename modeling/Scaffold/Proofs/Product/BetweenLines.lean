import Scaffold.Proofs.Product.ModuleText

/-!
# Registration between lines

Whatever the module of all features holds, a registration cuts it only between lines or at its ends,
also where its last line has no line feed. Every line stays a line, and the lines of the feature
come behind the last ones of their kinds.
-/

namespace Scaffold

open Text

/-- Two edits that start apart can be told in either order. -/
theorem Edit.simultaneous_swap {first second : Edit} (h : first.start.toNat ≠ second.start.toNat)
    (chars : List Char) :
    simultaneous [first, second] chars = simultaneous [second, first] chars := by
  refine SameStarts.simultaneousFrom_eq (fun position => ?_) 0 chars
  cases hfirst : startsAt position first with
  | false => simp only [List.filter_cons, List.filter_nil, hfirst, Bool.false_eq_true, if_false]
  | true =>
    have hsecond : startsAt position second = false :=
      beq_eq_false_iff_ne.mpr fun hthere => h ((beq_iff_eq.mp hfirst).trans hthere.symm)
    simp only [List.filter_cons, List.filter_nil, hfirst, hsecond, Bool.false_eq_true, if_false]

/-- A change of a file that can be made of its content can be made on the host, and changes nothing
else there. -/
theorem Change.exists_apply_of_sole {χ : Type} [FileHost χ] [ContentHost χ] {change : Change}
    {path : Path} (hon : change.isOn path = true) {host : χ} {content revised : String}
    (held : ContentHost.contents host path.components = some content)
    (h : change.apply (⟨content⟩ : SoleFile) = .ok () ⟨revised⟩) :
    ∃ left : χ, change.apply host = .ok () left ∧
      ContentHost.contents left path.components = some revised ∧
      ∀ other : Path, other.same path = false →
        ContentHost.contents left other.components =
          ContentHost.contents host other.components := by
  have hmirrors : Task.Mirrors (ContentHost.contents : χ → Contents) change.apply change.apply :=
    Change.mirrors_apply fun own _ => ContentHost.mirrorsFile own
  have hsole : (ContentHost.contents host).sole path = ⟨content⟩ := by
    rw [Contents.sole, Contents.text, held, Option.getD_some]
  have hsucceeds : Task.succeeds change.apply host = true := by
    rw [← hmirrors.succeeds_eq, ← (Change.mirrors_sole hon).succeeds_eq, hsole, Task.succeeds, h]
  obtain ⟨_, left, hleft⟩ := Task.succeeds_iff.mp hsucceeds
  have hcontents := hmirrors.of_ok hleft
  have hseen := (Change.mirrors_sole hon).of_ok hcontents
  rw [hsole, h] at hseen
  have htext : (ContentHost.contents left).text path = revised :=
    congrArg SoleFile.text (EStateM.Result.ok.inj hseen).2.symm
  refine ⟨left, hleft, ?_, fun other hother => ?_⟩
  · have hkept : Task.Keeps (fun contents : Contents => (contents path.components).isSome = true)
        change.apply :=
      Change.keeps_apply fun own _ => Contents.keepsFile_present own path.components
    obtain ⟨found, hfound⟩ :=
      Option.isSome_iff_exists.mp (hkept.of_ok hcontents (Option.isSome_of_eq_some held))
    rw [Contents.text, hfound, Option.getD_some] at htext
    rw [hfound, htext]
  · have hkept : Task.Keeps (fun contents : Contents =>
        contents other.components = ContentHost.contents host other.components) change.apply := by
      refine Change.keeps_apply fun own hown => Contents.keepsFile_other (fun hsame => ?_) _
      have hpath := Path.same_iff.mp (Change.same_of_isOn hown hon)
      rw [Path.same_iff.mpr (hsame.symm.trans hpath)] at hother
      cases hother
    exact hkept.of_ok hcontents rfl

namespace FeatureBlueprint

/-- Two lines, each with the opening of its kind, put in between three parts of a text. -/
structure PutBetween (front middle back : List Char) (early late : String × String)
    (revised : List Char) : Prop where
  /-- The text is cut between lines or at its ends. -/
  borders : IsLineBorder front (middle ++ back) ∧ IsLineBorder (front ++ middle) back
  /-- The parts stay, with a text behind each of the first two. -/
  parts : ∃ first second, revised = front ++ (first ++ (middle ++ (second ++ back)))
  /-- The lines of the text are those of its parts. -/
  kept : bareLines (front ++ (middle ++ back)) =
    bareLines front ++ (bareLines middle ++ bareLines back)
  /-- Besides the two lines, at most a blank one is put in. -/
  lines : ∃ blanks ≤ 1, bareLines revised =
    bareLines front ++ early.2.toList ::
      (bareLines middle ++ (List.replicate blanks [] ++ late.2.toList :: bareLines back))
  /-- The first line comes behind all lines of its kind. -/
  behindEarly : ∀ line ∈ bareLines (middle ++ back), ¬early.1.toList <+: dropBlank line
  /-- The second line comes behind all lines of its kind. -/
  behindLate : ∀ line ∈ bareLines back, ¬late.1.toList <+: dropBlank line

/-- The characters put in for a line at a position. -/
def lineAt (text : String) (position : Nat) (line : String) : List Char :=
  (separator text position ++ line ++ "\n").toList

section Separators

variable {text : String} {lines others : List (List Char)} {rest : List Char}

/-- A line that is put in is fed, behind a separator where it needs one. -/
theorem lineAt_eq (text : String) (position : Nat) (line : String) :
    lineAt text position line = (separator text position).toList ++ fed [line.toList] := by
  rw [lineAt, String.toList_append, String.toList_append, fed_singleton, List.append_assoc]
  rfl

/-- Behind ended lines of a text, a line needs no line feed in front. -/
theorem lineAt_ended (htext : text.toList = fed lines ++ rest) (line : String) :
    lineAt text (byteLength (fed lines)) line = fed [line.toList] := by
  have hnothing : separator text (byteLength (fed lines)) = "" := by
    unfold separator
    refine if_neg fun hneeded => ?_
    simp only [Bool.and_eq_true, beq_iff_eq, bne_iff_ne, Bool.not_eq_true',
      String.isEmpty_eq_false_iff] at hneeded
    obtain ⟨⟨hlength, hsome⟩, hlast⟩ := hneeded
    rw [htext, byteLength_append] at hlength
    have hrest : rest = [] := eq_nil_of_byteLength (by omega)
    rw [hrest, List.append_nil] at htext
    by_cases hnil : lines = []
    · rw [hnil] at htext
      exact hsome (String.toList_eq_nil_iff.mp htext)
    · exact hlast (htext ▸ getLast?_fed hnil)
  rw [lineAt_eq, hnothing]
  rfl

/-- Behind a last line without a line feed, a line needs one in front. -/
theorem lineAt_open (htext : text.toList = fed lines ++ rest) (hne : rest ≠ [])
    (hrest : '\n' ∉ rest) (line : String) :
    lineAt text (byteLength (fed lines ++ rest)) line = '\n' :: fed [line.toList] := by
  have hneeded : separator text (byteLength (fed lines ++ rest)) = "\n" := by
    unfold separator
    refine if_pos ?_
    simp only [Bool.and_eq_true, beq_iff_eq, bne_iff_ne, Bool.not_eq_true',
      String.isEmpty_eq_false_iff]
    refine ⟨⟨congrArg byteLength htext.symm, ?_⟩, ?_⟩
    · rintro rfl
      exact hne (List.append_eq_nil_iff.mp htext.symm).2
    · rw [htext, List.getLast?_append_of_ne_nil _ hne]
      exact fun hlast => hrest (List.mem_of_getLast? hlast)
  rw [lineAt_eq, hneeded]
  rfl

variable {early late : String}

/-- Two lines behind ended lines of a text. -/
theorem bareLines_behind_ended {first second third : List (List Char)}
    (htext : text.toList = fed first ++ (fed second ++ (fed third ++ rest)))
    (hlines : ∀ line ∈ first ++ (second ++ third), '\n' ∉ line) (hrest : '\n' ∉ rest)
    (hearly : '\n' ∉ early.toList) (hlate : '\n' ∉ late.toList) :
    bareLines (fed first ++ (lineAt text (byteLength (fed first)) early ++
        (fed second ++ (lineAt text (byteLength (fed (first ++ second))) late ++
          (fed third ++ rest))))) =
      first ++ early.toList :: (second ++ late.toList :: (third ++ openLine rest)) := by
  have hmiddle : text.toList = fed (first ++ second) ++ (fed third ++ rest) := by
    rw [htext, fed_append, List.append_assoc]
  have hrevised : ∀ line ∈ first ++ ([early.toList] ++ (second ++ ([late.toList] ++ third))),
      '\n' ∉ line := by
    simp only [List.forall_mem_append, List.forall_mem_singleton] at hlines ⊢
    exact ⟨hlines.1, hearly, hlines.2.1, hlate, hlines.2.2⟩
  have hlined := bareLines_fed hrevised hrest
  simp only [fed_append, List.append_assoc] at hlined
  rw [lineAt_ended htext, lineAt_ended hmiddle, hlined]
  rfl

/-- One line behind ended lines of a text and another one behind its open line, which this ends. -/
theorem bareLines_behind_last (htext : text.toList = fed (lines ++ others) ++ rest)
    (hlines : ∀ line ∈ lines ++ others, '\n' ∉ line) (hne : rest ≠ []) (hrest : '\n' ∉ rest)
    (hearly : '\n' ∉ early.toList) (hlate : '\n' ∉ late.toList) :
    bareLines (fed lines ++ (lineAt text (byteLength (fed lines)) early ++
        (fed others ++ (rest ++
          lineAt text (byteLength (fed (lines ++ others) ++ rest)) late)))) =
      lines ++ early.toList :: (others ++ [rest, late.toList]) := by
  have hfront : text.toList = fed lines ++ (fed others ++ rest) := by
    rw [htext, fed_append, List.append_assoc]
  have hrevised : ∀ line ∈ lines ++ ([early.toList] ++ (others ++ ([rest] ++ [late.toList]))),
      '\n' ∉ line := by
    simp only [List.forall_mem_append, List.forall_mem_singleton] at hlines ⊢
    exact ⟨hlines.1, hearly, hlines.2, hrest, hlate⟩
  have hlined := bareLines_ended hrevised
  simp only [fed_append, fed_singleton rest, List.append_assoc] at hlined
  rw [lineAt_ended hfront, lineAt_open htext hne hrest]
  exact hlined

/-- Two lines behind the open line of a text. The second one is put in as if that were still open,
which leaves a blank line between them. -/
theorem bareLines_behind_open (htext : text.toList = fed lines ++ rest)
    (hlines : ∀ line ∈ lines, '\n' ∉ line) (hne : rest ≠ []) (hrest : '\n' ∉ rest)
    (hearly : '\n' ∉ early.toList) (hlate : '\n' ∉ late.toList) :
    bareLines (fed lines ++ (rest ++ (lineAt text (byteLength (fed lines ++ rest)) early ++
        lineAt text (byteLength (fed lines ++ rest)) late))) =
      lines ++ [rest, early.toList, [], late.toList] := by
  have hrevised : ∀ line ∈ lines ++ ([rest] ++ ([early.toList] ++ ([[]] ++ [late.toList]))),
      '\n' ∉ line := by
    simp only [List.forall_mem_append, List.forall_mem_singleton]
    exact ⟨hlines, hrest, hearly, List.not_mem_nil, hlate⟩
  have hlined := bareLines_ended hrevised
  simp only [fed_append, fed_singleton rest, fed_singleton [], List.append_assoc] at hlined
  rw [lineAt_open htext hne hrest, lineAt_open htext hne hrest]
  exact hlined

end Separators

section Lines

variable {text : String} {front middle back : List (List Char)} {early late : String}

/-- Lines put in between the lines of a text are lines of what comes out. -/
theorem exists_bareLines (hparts : front ++ (middle ++ back) = feedLines text.toList)
    (hearly : '\n' ∉ early.toList) (hlate : '\n' ∉ late.toList) :
    ∃ blanks ≤ 1, bareLines (front.flatten ++
        (lineAt text (byteLength front.flatten) early ++
          (middle.flatten ++
            (lineAt text (byteLength (front ++ middle).flatten) late ++ back.flatten)))) =
      front.map unfed ++ early.toList ::
        (middle.map unfed ++ (List.replicate blanks [] ++ late.toList :: back.map unfed)) := by
  obtain ⟨lines, rest, hlines, hrest, htext⟩ := exists_fed text.toList
  rw [htext, feedLines_fed hlines hrest] at hparts
  obtain ⟨first, others, rfl, rfl, hlater⟩ | ⟨hne, rfl, hlater⟩ := parts_of_append_eq hparts
  · obtain ⟨hfirst, hothers⟩ := List.forall_mem_append.mp hlines
    obtain ⟨second, third, rfl, rfl, rfl⟩ | ⟨hne, rfl, rfl⟩ := parts_of_append_eq hlater
    · -- Both lines go behind ended lines.
      obtain ⟨hsecond, hthird⟩ := List.forall_mem_append.mp hothers
      rw [fed_append, fed_append, List.append_assoc, List.append_assoc] at htext
      refine ⟨0, Nat.zero_le 1, ?_⟩
      rw [map_unfed_fed hfirst, map_unfed_fed hsecond, List.map_append, map_unfed_fed hthird,
        map_unfed_openLine hrest]
      simp only [List.flatten_append, flatten_map_feed, flatten_openLine, ← fed_append]
      exact bareLines_behind_ended htext hlines hrest hearly hlate
    · -- The second line goes behind the open line, which it ends.
      refine ⟨0, Nat.zero_le 1, ?_⟩
      rw [map_unfed_fed hfirst, List.map_append, map_unfed_fed hothers, List.map_singleton,
        unfed_of_not_mem hrest]
      simp only [List.flatten_append, flatten_map_feed, List.flatten_singleton, List.flatten_nil,
        List.append_nil, List.append_assoc, List.singleton_append]
      have hlined := bareLines_behind_last htext hlines hne hrest hearly hlate
      rw [fed_append, List.append_assoc] at hlined
      exact hlined
  · -- Both lines go behind the open line.
    obtain ⟨rfl, rfl⟩ := List.append_eq_nil_iff.mp hlater
    refine ⟨1, Nat.le_refl 1, ?_⟩
    rw [List.map_append, map_unfed_fed hlines, List.map_singleton, unfed_of_not_mem hrest]
    simp only [List.flatten_append, flatten_map_feed, List.flatten_singleton, List.flatten_nil,
      List.append_nil, List.append_assoc, List.nil_append]
    exact bareLines_behind_open htext hlines hne hrest hearly hlate

/-- A line that opens as a kind does so with more characters behind it. -/
theorem opens_append {opening front : List Char} (hne : opening ≠ []) (back : List Char)
    (h : opening <+: dropBlank front) : opening <+: dropBlank (front ++ back) := by
  have hsome : (front.dropWhile isBlank).isEmpty = false := by
    rw [List.isEmpty_eq_false_iff]
    exact fun hnil => hne (List.prefix_nil.mp (hnil ▸ h))
  rw [dropBlank, List.dropWhile_append, hsome, if_neg Bool.false_ne_true]
  exact h.trans (List.prefix_append _ back)

/-- The lines of a part of a text open as no kind that the lines of the text do not open as. -/
theorem not_opens_of_parts {opening : String} (hne : opening ≠ "") {lines : List (List Char)}
    (hlines : lines ⊆ feedLines text.toList)
    (h : ∀ line ∈ lines, opening.toList.isPrefixOf (dropBlank line) = false) :
    ∀ line ∈ lines.map unfed, ¬opening.toList <+: dropBlank line := by
  refine List.forall_mem_map.mpr fun line hline hopens => ?_
  obtain ⟨ending, hending⟩ := exists_ending_of_mem_feedLines (hlines hline)
  have hlonger := opens_append (mt String.toList_eq_nil_iff.mp hne) ending hopens
  rw [← hending, ← List.isPrefixOf_iff_prefix, h line hline] at hlonger
  cases hlonger

/-- Two lines are put in between the lines of a text behind all lines of their kinds. -/
theorem putBetween_of_parts {early late : String × String}
    (hparts : front ++ (middle ++ back) = feedLines text.toList)
    (hopenings : early.1 ≠ "" ∧ late.1 ≠ "")
    (hfeeds : '\n' ∉ early.2.toList ∧ '\n' ∉ late.2.toList)
    (hbehindEarly : ∀ line ∈ middle ++ back, early.1.toList.isPrefixOf (dropBlank line) = false)
    (hbehindLate : ∀ line ∈ back, late.1.toList.isPrefixOf (dropBlank line) = false) :
    PutBetween front.flatten middle.flatten back.flatten early late
      (front.flatten ++ (lineAt text (byteLength front.flatten) early.2 ++ (middle.flatten ++
        (lineAt text (byteLength (front ++ middle).flatten) late.2 ++ back.flatten)))) := by
  have hsame : (front ++ middle) ++ back = feedLines text.toList := by
    rw [List.append_assoc, hparts]
  obtain ⟨hfront, hothers⟩ := feedLines_of_parts hparts
  obtain ⟨hmiddle, hback⟩ := feedLines_of_parts hothers.symm
  have hbare : ∀ {lines : List (List Char)}, feedLines lines.flatten = lines →
      bareLines lines.flatten = lines.map unfed := fun h => congrArg (List.map unfed) h
  have hmine := List.subset_append_right front (middle ++ back)
  rw [hparts] at hmine
  have hlast := List.subset_append_right (front ++ middle) back
  rw [hsame] at hlast
  constructor
  case borders =>
    rw [← List.flatten_append, ← List.flatten_append]
    exact ⟨isLineBorder_of_parts hparts, isLineBorder_of_parts hsame⟩
  case parts => exact ⟨_, _, rfl⟩
  case kept =>
    rw [← List.flatten_append, ← List.flatten_append, hparts, flatten_feedLines, hbare hfront,
      hbare hmiddle, hbare hback, ← List.map_append, ← List.map_append, hparts]
    rfl
  case lines =>
    rw [hbare hfront, hbare hmiddle, hbare hback]
    exact exists_bareLines hparts hfeeds.1 hfeeds.2
  case behindEarly =>
    rw [← List.flatten_append, hbare hothers]
    exact not_opens_of_parts hopenings.1 hmine hbehindEarly
  case behindLate =>
    rw [hbare hback]
    exact not_opens_of_parts hopenings.2 hlast hbehindLate

/-- The insertion of a line at a position. -/
def insertAt (text : String) (position : Nat) (line : String) : Edit :=
  .insert position.toUInt64 (separator text position ++ line ++ "\n")

/-- Lines in three parts make the text. -/
theorem toList_of_parts (hparts : front ++ (middle ++ back) = feedLines text.toList) :
    text.toList = front.flatten ++ (middle.flatten ++ back.flatten) := by
  rw [← List.flatten_append, ← List.flatten_append, hparts, flatten_feedLines]

/-- An insertion starts where the characters in front of it end. -/
theorem start_insertAt (short : byteLength text.toList < 2 ^ 63) {before after : List Char}
    (htext : text.toList = before ++ after) (line : String) :
    (insertAt text (byteLength before) line).start.toNat = byteLength before :=
  toNat_toUInt64_of_isBoundary short (isBoundary_iff.mpr ⟨before, after, htext, rfl⟩)

/-- Insertions with lines between them start apart. -/
theorem start_insertAt_ne (short : byteLength text.toList < 2 ^ 63)
    (hparts : front ++ (middle ++ back) = feedLines text.toList) (hne : middle ≠ [])
    (first second : String) :
    (insertAt text (byteLength (front ++ middle).flatten) second).start.toNat ≠
      (insertAt text (byteLength front.flatten) first).start.toNat := by
  have htext := toList_of_parts hparts
  rw [List.flatten_append, start_insertAt short (htext.trans (List.append_assoc ..).symm),
    start_insertAt short htext, byteLength_append]
  intro hsame
  have hnothing : middle.flatten = [] := eq_nil_of_byteLength (by omega)
  have hmiddle := (feedLines_of_parts (feedLines_of_parts hparts).2.symm).1
  rw [hnothing] at hmiddle
  exact hne hmiddle.symm

/-- Two insertions behind parts of the lines put their lines in between these. -/
theorem simultaneous_insertAt (short : byteLength text.toList < 2 ^ 63)
    (hparts : front ++ (middle ++ back) = feedLines text.toList) (first second : String) :
    Edit.simultaneous [insertAt text (byteLength front.flatten) first,
        insertAt text (byteLength (front ++ middle).flatten) second] text.toList =
      front.flatten ++ (lineAt text (byteLength front.flatten) first ++ (middle.flatten ++
        (lineAt text (byteLength (front ++ middle).flatten) second ++ back.flatten))) := by
  have htext := toList_of_parts hparts
  have hearly := start_insertAt short htext first
  have hlate := start_insertAt short (htext.trans (List.append_assoc ..).symm) second
  rw [List.flatten_append, htext]
  exact Edit.simultaneous_insert_two hearly (hlate.trans (byteLength_append _ _)) _ _

end Lines

section Cuts

variable {text : String}

/-- A text can be cut where a line of a kind goes, and behind that no line is of the kind. -/
theorem exists_parts_of_declaredAt (text : String) :
    ∃ front back, front ++ back = feedLines text.toList ∧
      declaredAt text = byteLength front.flatten ∧
      ∀ line ∈ back, "pub mod ".toList.isPrefixOf (dropBlank line) = false := by
  unfold declaredAt
  cases h : behindLast? "pub mod " text with
  | none => exact ⟨[], _, rfl, rfl, behindLastIn?_eq_none_iff.mp h⟩
  | some position =>
    obtain ⟨front, back, hparts, hlength, hback⟩ := exists_parts_of_behindLastIn? h
    exact ⟨front, back, hparts, hlength.trans (Nat.zero_add _), hback⟩

/-- Behind the place of what is taken over, nothing else is taken over. -/
theorem exists_parts_of_takenAt (text : String) :
    ∃ front back, front ++ back = feedLines text.toList ∧
      takenAt text = byteLength front.flatten ∧
      ∀ line ∈ back, "pub use ".toList.isPrefixOf (dropBlank line) = false := by
  unfold takenAt
  cases h : behindLast? "pub use " text with
  | none =>
    obtain ⟨front, back, hparts, hlength, -⟩ := exists_parts_of_declaredAt text
    refine ⟨front, back, hparts, hlength, fun line hline => ?_⟩
    refine behindLastIn?_eq_none_iff.mp h line ?_
    rw [← hparts]
    exact List.mem_append_right front hline
  | some position =>
    obtain ⟨front, back, hparts, hlength, hback⟩ := exists_parts_of_behindLastIn? h
    exact ⟨front, back, hparts, hlength.trans (Nat.zero_add _), hback⟩

/-- The two lines of a feature go between the lines of the module, each behind all lines of its
kind. -/
theorem exists_putBetween {name : String} (hname : IsFeatureName name)
    (short : byteLength text.toList < 2 ^ 63) :
    ∃ early late front middle back,
      [early, late].Perm [("pub mod ", declaration name),
        ("pub use ", takeover name (pascalCase name))] ∧
      text.toList = front ++ (middle ++ back) ∧
      PutBetween front middle back early late ((forFeature name).registered text).toList := by
  obtain ⟨declaring, behindDeclaring, hdeclaring, hdeclared, hnoneDeclares⟩ :=
    exists_parts_of_declaredAt text
  obtain ⟨taking, behindTaking, htaking, htaken, hnoneTakes⟩ := exists_parts_of_takenAt text
  have hmod : "pub mod " ≠ "" := by decide
  have huse : "pub use " ≠ "" := by decide
  have hfeeds := And.intro (feed_not_mem_declaration hname) (feed_not_mem_takeover hname)
  have hregistered : ((forFeature name).registered text).toList = Edit.simultaneous
      [insertAt text (declaredAt text) (declaration name),
        insertAt text (takenAt text) (takeover name (pascalCase name))] text.toList := by
    rw [registered, String.toList_ofList, insertions, typeName_forFeature]
    rfl
  rw [hregistered, hdeclared, htaken]
  obtain hlt | hle := Nat.lt_or_ge taking.length declaring.length
  · -- What takes the feature over comes first.
    obtain ⟨middle, rfl⟩ := List.prefix_of_prefix_length_le ⟨_, htaking⟩ ⟨_, hdeclaring⟩ hlt.le
    rw [List.append_assoc] at hdeclaring
    cases List.append_cancel_left (htaking.trans hdeclaring.symm)
    have hne : middle ≠ [] := by
      rintro rfl
      rw [List.append_nil] at hlt
      exact hlt.false
    have hapart := start_insertAt_ne short htaking hne (takeover name (pascalCase name))
      (declaration name)
    rw [Edit.simultaneous_swap hapart, simultaneous_insertAt short htaking]
    exact ⟨("pub use ", _), ("pub mod ", _), _, _, _, List.Perm.swap _ _ _, toList_of_parts htaking,
      putBetween_of_parts htaking ⟨huse, hmod⟩ hfeeds.symm hnoneTakes hnoneDeclares⟩
  · -- The declaration comes first, also where both lines go to one place.
    obtain ⟨middle, rfl⟩ := List.prefix_of_prefix_length_le ⟨_, hdeclaring⟩ ⟨_, htaking⟩ hle
    rw [List.append_assoc] at htaking
    cases List.append_cancel_left (hdeclaring.trans htaking.symm)
    rw [simultaneous_insertAt short hdeclaring]
    exact ⟨("pub mod ", _), ("pub use ", _), _, _, _, List.Perm.refl _, toList_of_parts hdeclaring,
      putBetween_of_parts hdeclaring ⟨hmod, huse⟩ hfeeds hnoneDeclares hnoneTakes⟩

end Cuts

/-- Registering a feature whose name is accepted succeeds on every text of the module, changes no
other file, and puts in two lines between the lines of the text, so that every line stays a line and
each of the two is behind all lines of its kind. The text must not be longer than signed positions
in 64 bits can say. -/
theorem register_between_lines {ω χ : Type} [FileHost ω] [HasDisk ω] [FileHost χ] [ContentHost χ]
    {blueprint prepared : FeatureBlueprint} {world left : ω} {options : Options}
    (prepares : Blueprint.prepare options (blueprint, world) = .ok () (prepared, left))
    {host : χ} {text : String}
    (held : ContentHost.contents host featuresModule.components = some text)
    (short : byteLength text.toList < 2 ^ 63) :
    let name := featureName options
    ∃ after : χ, (prepared.register text).apply host = .ok () after ∧
      (∀ path : Path, path.same featuresModule = false →
        ContentHost.contents after path.components = ContentHost.contents host path.components) ∧
      ∃ revised, ContentHost.contents after featuresModule.components = some revised ∧
        ∃ early late front middle back,
          [early, late].Perm [("pub mod ", "pub mod " ++ name ++ ";"),
            ("pub use ", "pub use " ++ name ++ "::" ++ pascalCase name ++ "Feature;")] ∧
          text.toList = front ++ (middle ++ back) ∧
          PutBetween front middle back early late revised.toList := by
  intro name
  obtain ⟨husable, rfl, -⟩ := prepared_of_prepare prepares
  have hon : ((forFeature name).register text).isOn featuresModule = true :=
    featuresModule.same_self
  obtain ⟨after, happlies, hmodule, hothers⟩ :=
    Change.exists_apply_of_sole hon held (apply_register short)
  exact ⟨after, happlies, hothers, _, hmodule,
    exists_putBetween (isFeatureName_of_usable husable) short⟩

/-- A module with indented lines of both kinds in the other order, with carriage returns, longer
characters and no line feed at its end. -/
theorem register_between_lines_unterminated :
    let options := Options.ofList [("name", .text "orders")]
    let text := "  pub use a::é;\r\n// é\n\u2003pub mod b;"
    let host : Workspace := ⟨.withFiles [(featuresModule, text)], .blank⟩
    Blueprint.prepare options (start, host) = .ok () (forFeature "orders", host) ∧
      ∃ after : Workspace, ((forFeature "orders").register text).apply host = .ok () after ∧
        ∃ revised, after.files.content? featuresModule = some revised ∧
          ∀ line ∈ ["pub mod orders;", "pub use orders::OrdersFeature;"],
            line.toList ∈ bareLines revised.toList := by
  intro options text host
  have hname : featureName options = "orders" := by decide +kernel
  have husable : isUnusable (featureName options) = false := by decide +kernel
  have habsent : FileHost.has (forFeature (featureName options)).directory host = false := by
    decide +kernel
  have hcase : pascalCase "orders" = "Orders" := by decide +kernel
  have hmodule : host.files.content? featuresModule = some text := by decide +kernel
  have prepares : Blueprint.prepare options (start, host) = .ok () (forFeature _, host) :=
    prepare_of_absent husable habsent
  rw [MemoryHost.content?_eq] at hmodule
  have held : ContentHost.contents host featuresModule.components = some text := hmodule
  have short : byteLength text.toList < 2 ^ 63 := by decide +kernel
  obtain ⟨after, happlies, -, revised, hrevised, early, late, front, middle, back, hkinds, -,
    hput⟩ := register_between_lines prepares held short
  rw [hname] at prepares happlies hkinds
  rw [hcase] at hkinds
  refine ⟨prepares, after, happlies, revised, ?_, ?_⟩
  · rw [MemoryHost.content?_eq]
    exact hrevised
  · intro line hline
    obtain ⟨blanks, -, hlines⟩ := hput.lines
    have hmine : line ∈ [early, late].map Prod.snd := by
      rw [(hkinds.map Prod.snd).mem_iff]
      exact hline
    rw [hlines]
    obtain rfl | hlate := List.mem_cons.mp hmine
    · simp
    · cases List.mem_singleton.mp hlate
      simp

end FeatureBlueprint

end Scaffold
