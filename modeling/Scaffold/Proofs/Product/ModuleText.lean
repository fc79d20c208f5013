import Scaffold.Proofs.Product.Registration

/-!
# Lines of the module of all features

The module of all features that starts empty has a fixed form: the lines that declare the features,
in the order in which these were created, and then the lines that take them over, in the same order.
Registering another feature finds the end of the first part and the end of the text, and so keeps
the form.
-/

namespace Scaffold

open Text

namespace Edit

/-- Two texts put in between three parts of a text. -/
theorem simultaneous_insert_two {early late : UInt64} {front middle back : List Char}
    (hearly : early.toNat = byteLength front)
    (hlate : late.toNat = byteLength front + byteLength middle) (first second : String) :
    simultaneous [insert early first, insert late second] (front ++ (middle ++ back)) =
      front ++ (first.toList ++ (middle ++ (second.toList ++ back))) := by
  have hbefore : ∀ edit ∈ [insert early first, insert late second],
      0 + byteLength front ≤ edit.start.toNat := by
    refine List.forall_mem_cons.mpr ⟨?_, List.forall_mem_singleton.mpr ?_⟩
    · exact (Nat.zero_add _).trans_le hearly.ge
    · exact (Nat.zero_add _).trans_le (hlate ▸ Nat.le_add_right _ _)
  have hstart : 0 + byteLength front = (insert early first).start.toNat :=
    (Nat.zero_add _).trans hearly.symm
  have hlater : ∀ other ∈ [insert late second], (insert early first).Before other :=
    List.forall_mem_singleton.mpr (by
      rw [Before]
      exact hearly ▸ hlate ▸ Nat.le_add_right _ _)
  have hfirst := @simultaneousFrom_cons_at_start (insert early first) [insert late second] []
    (middle ++ back) rfl hlater
  have hend : (insert early first).stop.toNat + byteLength middle =
      (insert late second).start.toNat := by
    change early.toNat + byteLength middle = late.toNat
    rw [hlate, hearly]
  have hmiddle := @simultaneousFrom_append [insert late second] (insert early first).stop.toNat
    middle back (List.forall_mem_singleton.mpr hend.le)
  have hsecond := @simultaneousFrom_cons_at_start (insert late second) [] [] back rfl
    (List.forall_mem_nil _)
  rw [List.nil_append] at hfirst hsecond
  rw [simultaneous, simultaneousFrom_append hbefore, hstart, hfirst, hmiddle, hend, hsecond,
    simultaneousFrom_nil]
  rfl

end Edit

namespace FeatureBlueprint

section Positions

variable {opening : List Char} {offset : Nat} {lines : List (List Char)}

/-- The last line of a kind is one of the later lines, or else one of the earlier ones. -/
theorem behindLastIn?_append (front back : List (List Char)) :
    behindLastIn? opening offset (front ++ back) =
      (behindLastIn? opening (offset + byteLength front.flatten) back).or
        (behindLastIn? opening offset front) := by
  induction front generalizing offset with
  | nil => exact (Option.or_none ..).symm
  | cons line rest ih =>
    rw [List.cons_append, behindLastIn?, behindLastIn?, ih, Option.or_assoc, List.flatten_cons,
      byteLength_append, Nat.add_assoc]

/-- Where all lines are of the kind, the last one is the last of all. -/
theorem behindLastIn?_of_forall (hne : lines ≠ [])
    (h : ∀ line ∈ lines, opening.isPrefixOf (dropBlank line) = true) :
    behindLastIn? opening offset lines = some (offset + byteLength lines.flatten) := by
  induction lines generalizing offset with
  | nil => exact absurd rfl hne
  | cons line rest ih =>
    obtain ⟨hline, hrest⟩ := List.forall_mem_cons.mp h
    rw [behindLastIn?, hline, List.flatten_cons, byteLength_append, ← Nat.add_assoc]
    cases rest with
    | nil => rfl
    | cons second rest => rw [ih (List.cons_ne_nil second rest) hrest, Option.some_or]

end Positions

/-- The lines that declare features. -/
def declarations (names : List String) : String := fromLines (names.map declaration)

/-- The lines that take features over. -/
def takeovers (names : List String) : String :=
  fromLines (names.map fun name => takeover name (pascalCase name))

/-- The module of all features for features created in this order. -/
def moduleText (names : List String) : String := declarations names ++ takeovers names

section Lines

/-- Each line of a text is followed by a line feed. -/
theorem toList_fromLines (lines : List String) :
    (fromLines lines).toList = (lines.map String.toList).flatMap (· ++ ['\n']) := by
  rw [fromLines, String.toList_join, List.flatMap_map, List.flatMap_map]
  exact List.flatMap_congr fun line _ => String.toList_append

/-- Texts of lines are put together line by line. -/
theorem fromLines_append (front back : List String) :
    fromLines (front ++ back) = fromLines front ++ fromLines back := by
  rw [← String.toList_inj, String.toList_append, toList_fromLines, toList_fromLines,
    toList_fromLines, List.map_append, List.flatMap_append]

/-- One line more goes behind the others. -/
theorem fromLines_concat (lines : List String) (line : String) :
    fromLines (lines ++ [line]) = fromLines lines ++ (line ++ "\n") := by
  have hline : fromLines [line] = line ++ "\n" := by simp [fromLines]
  rw [fromLines_append, hline]

/-- The declaration of one feature more goes behind the others. -/
theorem declarations_concat (names : List String) (name : String) :
    declarations (names ++ [name]) = declarations names ++ (declaration name ++ "\n") := by
  rw [declarations, List.map_append, List.map_singleton, fromLines_concat]
  rfl

/-- What takes one feature more over goes behind the others. -/
theorem takeovers_concat (names : List String) (name : String) :
    takeovers (names ++ [name]) =
      takeovers names ++ (takeover name (pascalCase name) ++ "\n") := by
  rw [takeovers, List.map_append, List.map_singleton, fromLines_concat]
  rfl

/-- The module is a text of lines. -/
theorem moduleText_eq (names : List String) :
    moduleText names = fromLines (names.map declaration ++
      names.map fun name => takeover name (pascalCase name)) := (fromLines_append _ _).symm

/-- Behind ended lines, nothing has to stand in front of another one. -/
theorem separator_fromLines (lines : List String) (position : Nat) :
    separator (fromLines lines) position = "" := by
  induction lines using List.reverseRecOn with
  | nil => simp [separator, fromLines]
  | append_singleton front last _ =>
    have hlast : (fromLines (front ++ [last])).toList.getLast? = some '\n' := by
      rw [toList_fromLines, List.map_append, List.flatMap_append, List.map_singleton,
        List.flatMap_singleton, ← List.append_assoc, List.getLast?_concat]
    simp [separator, hlast]

variable {names : List String} {name : String}

theorem toList_declaration (name : String) :
    (declaration name).toList =
      ['p', 'u', 'b', ' ', 'm', 'o', 'd', ' '] ++ name.toList ++ [';'] := by
  rw [declaration, String.toList_append, String.toList_append]
  rfl

theorem toList_takeover (name typeName : String) :
    (takeover name typeName).toList = ['p', 'u', 'b', ' ', 'u', 's', 'e', ' '] ++ name.toList ++
      [':', ':'] ++ typeName.toList ++ ['F', 'e', 'a', 't', 'u', 'r', 'e', ';'] := by
  simp only [takeover, String.toList_append]
  rfl

/-- A declaration is one line. -/
theorem feed_not_mem_declaration (h : IsFeatureName name) : '\n' ∉ (declaration name).toList := by
  have hname := h.not_mem '\n' (by decide)
  rw [toList_declaration]
  simp [hname]

/-- What takes a feature over is one line. -/
theorem feed_not_mem_takeover (h : IsFeatureName name) :
    '\n' ∉ (takeover name (pascalCase name)).toList := by
  have hname := h.not_mem '\n' (by decide)
  have htype : '\n' ∉ (pascalCase name).toList :=
    fun hmem => absurd (isInWord_of_mem_pascalCase hmem) (by decide)
  rw [toList_takeover]
  simp [hname, htype]

/-- The module is cut into its lines. -/
theorem feedLines_moduleText (h : ∀ name ∈ names, IsFeatureName name) :
    feedLines (moduleText names).toList =
      names.map (fun name => (declaration name).toList ++ ['\n']) ++
        names.map fun name => (takeover name (pascalCase name)).toList ++ ['\n'] := by
  rw [moduleText_eq, toList_fromLines, ← fed, feedLines_ended, List.map_append, List.map_append,
    List.map_map, List.map_map, List.map_map, List.map_map]
  · rfl
  · intro line hline
    obtain ⟨text, htext, rfl⟩ := List.mem_map.mp hline
    obtain hdeclared | htaken := List.mem_append.mp htext
    · obtain ⟨name, hname, rfl⟩ := List.mem_map.mp hdeclared
      exact feed_not_mem_declaration (h name hname)
    · obtain ⟨name, hname, rfl⟩ := List.mem_map.mp htaken
      exact feed_not_mem_takeover (h name hname)

end Lines

section Registering

variable {names : List String} {name : String}

/-- Lines with their line feeds make the text of them. -/
theorem flatten_lines (spell : String → String) (names : List String) :
    (names.map fun name => (spell name).toList ++ ['\n']).flatten =
      (fromLines (names.map spell)).toList := by
  rw [toList_fromLines, List.map_map, List.flatMap_map, ← List.flatMap_def]
  rfl

/-- Neither kind of line opens as the other one. -/
theorem opens_declaration (opening : List Char) (name : String) :
    opening.isPrefixOf (dropBlank ((declaration name).toList ++ ['\n'])) =
      opening.isPrefixOf (['p', 'u', 'b', ' ', 'm', 'o', 'd', ' '] ++
        (name.toList ++ [';', '\n'])) := by
  rw [toList_declaration, List.append_assoc, List.append_assoc]
  rfl

theorem opens_takeover (opening : List Char) (name typeName : String) :
    opening.isPrefixOf (dropBlank ((takeover name typeName).toList ++ ['\n'])) =
      opening.isPrefixOf (['p', 'u', 'b', ' ', 'u', 's', 'e', ' '] ++
        (name.toList ++ ([':', ':'] ++ (typeName.toList ++
          ['F', 'e', 'a', 't', 'u', 'r', 'e', ';', '\n'])))) := by
  rw [toList_takeover]
  simp only [List.append_assoc]
  rfl

/-- A declaration goes behind the declarations. -/
theorem declaredAt_moduleText (h : ∀ name ∈ names, IsFeatureName name) :
    declaredAt (moduleText names) = byteLength (declarations names).toList := by
  have htaken : ∀ line ∈ names.map fun name => (takeover name (pascalCase name)).toList ++ ['\n'],
      "pub mod ".toList.isPrefixOf (dropBlank line) = false := by
    intro line hline
    obtain ⟨name, -, rfl⟩ := List.mem_map.mp hline
    rw [opens_takeover]
    rfl
  have hdeclared : ∀ line ∈ names.map fun name => (declaration name).toList ++ ['\n'],
      "pub mod ".toList.isPrefixOf (dropBlank line) = true := by
    intro line hline
    obtain ⟨name, -, rfl⟩ := List.mem_map.mp hline
    rw [opens_declaration]
    rfl
  rw [declaredAt, behindLast?, feedLines_moduleText h, behindLastIn?_append,
    behindLastIn?_eq_none_iff.mpr htaken, Option.none_or]
  cases names with
  | nil => rfl
  | cons first rest =>
    rw [behindLastIn?_of_forall (mt List.map_eq_nil_iff.mp (List.cons_ne_nil first rest)) hdeclared,
      Option.getD_some, flatten_lines, Nat.zero_add]
    rfl

/-- What takes a feature over goes to the end. -/
theorem takenAt_moduleText (h : ∀ name ∈ names, IsFeatureName name) :
    takenAt (moduleText names) = byteLength (moduleText names).toList := by
  have htaken : ∀ line ∈ names.map fun name => (takeover name (pascalCase name)).toList ++ ['\n'],
      "pub use ".toList.isPrefixOf (dropBlank line) = true := by
    intro line hline
    obtain ⟨name, -, rfl⟩ := List.mem_map.mp hline
    rw [opens_takeover]
    rfl
  rw [takenAt, declaredAt_moduleText h]
  cases names with
  | nil => rfl
  | cons first rest =>
    rw [behindLast?, feedLines_moduleText h, behindLastIn?_append,
      behindLastIn?_of_forall (mt List.map_eq_nil_iff.mp (List.cons_ne_nil first rest)) htaken,
      Option.some_or, Option.getD_some,
      flatten_lines, flatten_lines, Nat.zero_add, ← byteLength_append, ← String.toList_append]
    rfl

/-- The type of a feature is its name in capitals. -/
theorem get?_typeToken_forFeature (name : String) :
    (forFeature name).replacements.get? typeToken = some (pascalCase name) := by
  have hother : (typeToken == nameToken) = false := by decide
  simp only [forFeature, Replacements.insert, Replacements.empty, Replacements.insertIn,
    Replacements.get?, hother, Bool.false_eq_true, if_false, List.lookup_cons_self]

theorem typeName_forFeature (name : String) : (forFeature name).typeName = pascalCase name := by
  rw [typeName, get?_typeToken_forFeature, Option.getD_some]

/-- The two lines of another feature go behind the two parts of the module. -/
theorem insertions_moduleText (h : ∀ name ∈ names, IsFeatureName name) :
    (forFeature name).insertions (moduleText names) =
      [.insert (byteLength (declarations names).toList).toUInt64 (declaration name ++ "\n"),
        .insert (byteLength (moduleText names).toList).toUInt64
          (takeover name (pascalCase name) ++ "\n")] := by
  rw [insertions, declaredAt_moduleText h, takenAt_moduleText h, typeName_forFeature, moduleText_eq,
    separator_fromLines, separator_fromLines, String.empty_append, String.empty_append]
  rfl

/-- Registering another feature puts one line behind each part of the module. -/
theorem registered_moduleText (h : ∀ name ∈ names, IsFeatureName name)
    (short : byteLength (moduleText names).toList < 2 ^ 63) :
    (forFeature name).registered (moduleText names) = moduleText (names ++ [name]) := by
  have hparts : (moduleText names).toList =
      (declarations names).toList ++ (takeovers names).toList := String.toList_append
  have hlength : byteLength (moduleText names).toList =
      byteLength (declarations names).toList + byteLength (takeovers names).toList := by
    rw [hparts, byteLength_append]
  have hdeclared := toNat_toUInt64_of_isBoundary short
    (isBoundary_iff.mpr ⟨_, _, hparts, rfl⟩)
  have htaken := toNat_toUInt64_of_isBoundary short
    (isBoundary_iff.mpr ⟨_, [], (List.append_nil _).symm, rfl⟩)
  rw [hlength] at htaken
  have hinserted := @Edit.simultaneous_insert_two _ _ _ _ [] hdeclared htaken
    (declaration name ++ "\n") (takeover name (pascalCase name) ++ "\n")
  rw [List.append_nil, List.append_nil] at hinserted
  rw [registered, insertions_moduleText h, hlength, hparts, hinserted, moduleText,
    declarations_concat, takeovers_concat, ← String.toList_inj, String.toList_ofList]
  simp only [String.toList_append, List.append_assoc]

end Registering

end FeatureBlueprint

end Scaffold
