import Scaffold.Proofs.Product.Rendering

/-!
# Names of a feature

A feature is named by the words of the text given for it, with underscores between them, and its
type by the same words capitalized. The type is named after the feature and not after the text, so
it gets the words found in a name that has no case changes left. Where the lowercase forms of the
letters are final, these are the words of the text.
-/

namespace Scaffold

open Text

namespace FeatureBlueprint

/-- The name of a feature is the name asked for as directories spell it. -/
theorem featureName_of_find? {options : Options} {text : String}
    (h : options.find? "name" = some (.text text)) : featureName options = snakeCase text := by
  rw [featureName, h]
  rfl

/-- Splitting into words keeps all letters and digits in their order, in groups that begin at case
changes, and underscores stand between words only. Where lowercase forms are final, as they are in
ASCII, a name in snake case has the words it was made of, so that making it again changes nothing
and the type of a feature is named as if it were named after the text given. -/
theorem words_keep_letters_and_names_settle (text : String) :
    words text = (wordGroups text).map (·.flatMap lowercase) ∧
      (words text).flatten = (text.toList.filter isAlphanumeric).flatMap lowercase ∧
      (∀ word ∈ words text, word ≠ []) ∧
      IsLoose (snakeCase text).toList ∧
      ((∀ char ∈ text.toList, char.isAscii = true) → LowersFully text) ∧
      (LowersFully text →
        words (snakeCase text) = words text ∧
        snakeCase (snakeCase text) = snakeCase text ∧
        pascalCase (snakeCase text) = pascalCase text ∧
        ∀ (ω : Type) [FileHost ω] [HasDisk ω] (options : Options) (blueprint : FeatureBlueprint)
          (host : ω), options.find? "name" = some (.text text) →
          let named := (Task.after (Blueprint.prepare options) (blueprint, host)).1
          (isUnusable (snakeCase text) = true → named = blueprint) ∧
            (isUnusable (snakeCase text) = false →
              named.replacements.get? typeToken = some (pascalCase text))) := by
  refine ⟨words_eq_map_wordGroups text, flatten_words text, fun _ => ne_nil_of_mem_words,
    isLoose_snakeCase text, lowersFully_of_isAscii, fun hfinal => ?_⟩
  refine ⟨words_snakeCase hfinal, snakeCase_snakeCase hfinal, pascalCase_snakeCase hfinal, ?_⟩
  intro ω _ _ options blueprint host hname
  dsimp only
  rw [after_prepare, featureName_of_find? hname]
  refine ⟨fun hunusable => by rw [if_pos hunusable], fun husable => ?_⟩
  rw [husable, if_neg Bool.false_ne_true, get?_typeToken_forFeature, pascalCase_snakeCase hfinal]

/-- A name with separators in front and within, case changes behind a letter and a digit, and two
capital letters in a row; a name that is not ASCII; and one without a word, which is refused. -/
theorem myTag_keeps_letters_and_settles :
    let text := "-myTag2Go__ID"
    let options := Options.ofList [("name", .text text)]
    let host : Workspace := ⟨.withFiles [], .blank⟩
    (∀ char ∈ text.toList, char.isAscii = true) ∧ LowersFully text ∧
      snakeCase text = "my_tag2_go_id" ∧ words (snakeCase text) = words text ∧
      snakeCase (snakeCase text) = snakeCase text ∧
      options.find? "name" = some (.text text) ∧
      (Task.after (Blueprint.prepare options) (start, host)).1.replacements.get? typeToken =
        some "MyTag2GoId" ∧
      LowersFully "ÉtéNeuf" ∧ words (snakeCase "ÉtéNeuf") = words "ÉtéNeuf" ∧
      (Task.after (Blueprint.prepare (Options.ofList [("name", .text "--")])) (start, host)).1 =
        start := by
  intro text options host
  have hascii : ∀ char ∈ text.toList, char.isAscii = true :=
    List.all_eq_true.mp (by decide +kernel)
  have hoptions : options.find? "name" = some (.text text) := by decide +kernel
  have hparts : words text = [['m', 'y'], ['t', 'a', 'g', '2'], ['g', 'o'], ['i', 'd']] := by
    decide +kernel
  have hspelled : snakeCase text = "my_tag2_go_id" := by
    rw [snakeCase, hparts]
    decide +kernel
  have htype : pascalCase text = "MyTag2GoId" := by
    rw [pascalCase, hparts]
    decide +kernel
  have husable : isUnusable (snakeCase text) = false := by
    rw [hspelled]
    decide +kernel
  have hsummer : LowersFully "ÉtéNeuf" := by decide +kernel
  obtain ⟨-, -, -, -, hsettles, hfinal⟩ := words_keep_letters_and_names_settle text
  have hlowers := hsettles hascii
  obtain ⟨hwords, hsnake, -, hprepared⟩ := hfinal hlowers
  have hnamed := (hprepared Workspace options start host hoptions).2 husable
  rw [htype] at hnamed
  obtain ⟨-, -, -, -, -, hsummerFinal⟩ := words_keep_letters_and_names_settle "ÉtéNeuf"
  obtain ⟨-, -, -, -, hdashesSettle, hdashesFinal⟩ := words_keep_letters_and_names_settle "--"
  obtain ⟨-, -, -, hrefused⟩ := hdashesFinal (hdashesSettle (List.all_eq_true.mp (by decide)))
  exact ⟨hascii, hlowers, hspelled, hwords, hsnake, hoptions, hnamed, hsummer,
    (hsummerFinal hsummer).1,
    (hrefused Workspace _ start host (by decide +kernel)).1 (by decide +kernel)⟩

end FeatureBlueprint

end Scaffold
