import Scaffold.Proofs.Product.ModuleText
import Scaffold.Proofs.Template.Passes

/-!
# Texts of a feature

The templates of a feature keep their placeholders apart, and what is put in has underscores only
inside and single: the name of the type has none, and the name of the feature has them between its
words. So the texts of the files are the templates with both placeholders replaced together, and
none of the two is left or comes up again, whatever the words of the name are.
-/

namespace Scaffold

open Text

section Cutting

/-- The layout with a character more in front. A token that is complete with it is cut off. -/
def Layout.grow (tokens : List (String × List Char)) (char : Char) : Layout → Layout
  | ⟨opening, slots⟩ =>
    match tokens.find? fun token => token.2.isPrefixOf (char :: opening) with
    | some token => ⟨[], ⟨token.1, (char :: opening).drop token.2.length⟩ :: slots⟩
    | none => ⟨char :: opening, slots⟩

/-- The layout of characters in which some names have their tokens. -/
def Layout.cut (tokens : List (String × List Char)) (chars : List Char) : Layout :=
  chars.foldr (grow tokens) ⟨[], []⟩

variable {tokens : List (String × List Char)}

/-- What is cut are the characters themselves. -/
theorem Layout.text_cut (htokens : ∀ token ∈ tokens, token.2 = (placeholderToken token.1).toList)
    (chars : List Char) : (cut tokens chars).text = String.ofList chars := by
  rw [text, filled, String.ofList_inj]
  induction chars with
  | nil => rfl
  | cons char chars ih =>
    rw [cut, List.foldr_cons, ← cut]
    generalize cut tokens chars = layout at ih
    obtain ⟨opening, slots⟩ := layout
    dsimp only at ih
    dsimp only [grow]
    split
    case h_1 token hfound =>
      have hstarts := List.find?_some hfound
      obtain ⟨rest, hrest⟩ := List.isPrefixOf_iff_prefix.mp hstarts
      have htoken := htokens token (List.mem_of_find?_eq_some hfound)
      rw [← hrest, List.drop_left, List.nil_append, spelled_cons, Slot.shown_of_none rfl, ← htoken,
        ← List.append_assoc, hrest, List.cons_append, ih]
    case h_2 => rw [List.cons_append, ih]

/-- Only the given names have placeholders. -/
theorem Layout.name_mem_of_mem_cut {chars : List Char} :
    ∀ slot ∈ (cut tokens chars).slots, slot.name ∈ tokens.map Prod.fst := by
  induction chars with
  | nil => exact List.forall_mem_nil _
  | cons char chars ih =>
    rw [cut, List.foldr_cons, ← cut]
    generalize cut tokens chars = layout at ih
    obtain ⟨opening, slots⟩ := layout
    dsimp only [grow]
    split
    case h_1 token hfound =>
      exact List.forall_mem_cons.mpr
        ⟨List.mem_map_of_mem (List.mem_of_find?_eq_some hfound), ih⟩
    case h_2 => exact ih

end Cutting

section Names

variable {front back : List Char}

/-- An underscore between loose characters leaves them loose. -/
theorem Text.IsLoose.append_underscore (hfront : IsLoose front) (hback : IsLoose back)
    (hfirst : front ≠ []) (hlast : back ≠ []) : IsLoose (front ++ '_' :: back) where
  single := by
    refine Bare.not_infix_append hfront.bare ?_
    rw [List.infix_cons_iff, not_or]
    have hbehind : ¬ ['_', '_'] <+: '_' :: (back ++ []) := hback.not_starts_before hlast
    rw [List.append_nil] at hbehind
    exact ⟨hbehind, hback.single⟩
  head := by
    rw [List.head?_append_of_ne_nil _ hfirst]
    exact hfront.head
  last := by
    rw [List.append_cons, List.getLast?_append_of_ne_nil _ hlast]
    exact hback.last

/-- Parts without underscores are loose with underscores between them. -/
theorem Text.isLoose_intercalate {parts : List (List Char)}
    (h : ∀ part ∈ parts, part ≠ [] ∧ '_' ∉ part) : IsLoose (['_'].intercalate parts) := by
  induction parts with
  | nil => exact isLoose_of_not_mem List.not_mem_nil
  | cons first rest ih =>
    obtain ⟨⟨hfirst, hbare⟩, hrest⟩ := List.forall_mem_cons.mp h
    cases rest with
    | nil =>
      rw [List.intercalate_singleton]
      exact isLoose_of_not_mem hbare
    | cons second rest =>
      rw [List.intercalate_cons_cons, List.append_assoc, List.singleton_append]
      refine (isLoose_of_not_mem hbare).append_underscore (ih hrest) hfirst ?_
      obtain ⟨hsecond, -⟩ := hrest second List.mem_cons_self
      cases rest with
      | nil => rwa [List.intercalate_singleton]
      | cons third rest =>
        rw [List.intercalate_cons_cons, List.append_assoc]
        exact List.append_ne_nil_of_left_ne_nil hsecond _

/-- Words stand with single underscores between them. -/
theorem Text.isLoose_snakeCase (text : String) : IsLoose (snakeCase text).toList := by
  rw [snakeCase, String.toList_ofList]
  exact isLoose_intercalate fun part hpart => underscore_not_mem_of_mem_words hpart

end Names

namespace FeatureBlueprint

/-- The tokens of a feature with the names of their placeholders. -/
def tokens : List (String × List Char) :=
  [("feature_type", typeToken.toList), ("feature_name", nameToken.toList)]

/-- The names of the placeholders can be used as such. -/
theorem isPlaceholderName_of_mem_tokens : ∀ name ∈ tokens.map Prod.fst, IsPlaceholderName name := by
  decide +kernel

/-- In a template of a feature, underscores stand single outside of the tokens, and a line has at
most one token. -/
theorem cut_templates :
    ∀ chars ∈ templates.map fun template => template.2.toList,
      let layout := Layout.cut tokens chars
      ¬['_', '_'] <:+: layout.opening ∧ (∀ slot ∈ layout.slots, ¬['_', '_'] <:+: slot.literal) ∧
        layout.slots.IsChain fun slot _ => '\n' ∈ slot.literal := by
  -- Lines are turned into characters one by one; evaluating a long text as a whole is slow.
  simp only [templates, moduleTemplate, modelTemplate, serviceTemplate, handlersTemplate,
    testsTemplate, toList_fromLines, List.map_cons, List.map_nil, tokens, typeToken, nameToken,
    -String.reduceToList]
  repeat rw [String.toList_ofList]
  decide +kernel

/-- The templates keep their placeholders apart. -/
theorem exists_layout {template : String × String} (h : template ∈ templates) :
    ∃ layout : Layout, layout.text = template.2 ∧ layout.IsSeparated ∧
      ∀ slot ∈ layout.slots, slot.name ∈ tokens.map Prod.fst := by
  have htokens : ∀ token ∈ tokens, token.2 = (placeholderToken token.1).toList := by
    decide +kernel
  have hforeign : Name.isNameChar '\n' = false := by decide +kernel
  obtain ⟨hopening, hliterals, hlines⟩ := cut_templates _ (List.mem_map_of_mem h)
  refine ⟨Layout.cut tokens template.2.toList, ?_, ⟨hopening, ⟨?_, hliterals, ?_⟩⟩,
    Layout.name_mem_of_mem_cut⟩
  · rw [Layout.text_cut htokens, String.ofList_toList]
  · exact fun slot hslot =>
      isPlaceholderName_of_mem_tokens _ (Layout.name_mem_of_mem_cut slot hslot)
  · exact hlines.imp fun _ _ hfeed => ⟨'\n', hfeed, hforeign⟩

section Assignment

variable {name : String} {template : String × String}

/-- The names of the placeholders with what stands for them in a feature. -/
def assignment (name : String) : List (String × String) :=
  [("feature_type", pascalCase name), ("feature_name", name)]

theorem isPlaceholderName_of_mem_assignment :
    ∀ pair ∈ assignment name, IsPlaceholderName pair.1 :=
  fun _ hpair => isPlaceholderName_of_mem_tokens _ (List.mem_map_of_mem hpair)

/-- What stands for the placeholders has underscores only inside and single. -/
theorem isLoose_of_mem_assignment (hname : IsLoose name.toList) :
    ∀ pair ∈ assignment name, IsLoose pair.2.toList :=
  List.forall_mem_cons.mpr ⟨isLoose_of_not_mem (underscore_not_mem_pascalCase name),
    List.forall_mem_singleton.mpr hname⟩

/-- Every placeholder has a value. -/
theorem isSome_lookup_assignment {placeholder : String} (h : placeholder ∈ tokens.map Prod.fst) :
    ((assignment name).lookup placeholder).isSome := by
  simp only [tokens, List.map_cons, List.map_nil, List.mem_cons, List.not_mem_nil, or_false] at h
  obtain rfl | rfl := h <;> rfl

/-- Both placeholders of a template are replaced as if they were replaced together, in either
order, and none of them is left. -/
theorem render_template (hname : IsLoose name.toList) (htemplate : template ∈ templates) :
    (∀ order, order.Perm (assignment name) →
      (Replacements.ofList (tokenPairs order)).render template.2 =
        replaceTogether (tokenPairs (assignment name)) template.2) ∧
      ∀ pair ∈ assignment name, ¬(placeholderToken pair.1).toList <:+:
        (replaceTogether (tokenPairs (assignment name)) template.2).toList := by
  obtain ⟨layout, hlayout, hseparated, hslots⟩ := exists_layout htemplate
  have hnames := @isPlaceholderName_of_mem_assignment name
  have hloose := isLoose_of_mem_assignment hname
  have distinct : ["feature_type", "feature_name"].Nodup := by decide
  have htogether : replaceTogether (tokenPairs (assignment name)) template.2 =
      layout.filled fun placeholder => (assignment name).lookup placeholder := by
    rw [← hlayout]
    refine (hseparated.replaceTogether_filled hnames (areLoose_none _)).trans ?_
    simp only [Option.none_or]
  rw [htogether, ← hlayout]
  refine ⟨fun order horder => hseparated.render_of_loose distinct hnames hloose horder,
    fun pair hpair => hseparated.not_infix_filled ?_ ?_ (hnames pair hpair)⟩
  · exact fun slot _ value hvalue => hloose _ (mem_of_lookup hvalue)
  · exact fun slot hslot => isSome_lookup_assignment (hslots slot hslot)

end Assignment

section Generating

variable {ω : Type} [FileHost ω] [HasDisk ω] {blueprint prepared : FeatureBlueprint}
  {host left : ω} {options : Options}

/-- The name of a feature has underscores between its words only. -/
theorem isLoose_featureName (options : Options) : IsLoose (featureName options).toList := by
  unfold featureName
  cases (options.find? "name").bind OptionValue.text? with
  | none => exact isLoose_of_not_mem List.not_mem_nil
  | some text => exact isLoose_snakeCase text

/-- Features are planned by creating their files and registering them. -/
theorem exists_register_of_generate {changes : List Change} {planned : FeatureBlueprint × ω}
    (h : Blueprint.generate (blueprint, host) = .ok changes planned) :
    ∃ text, changes = Change.creations blueprint.files ++ [blueprint.register text] := by
  simp only [Blueprint.generate] at h
  cases hmade : blueprint.newFiles host with
  | error error =>
    simp only [hmade] at h
    cases h
  | ok made =>
    obtain ⟨-, rfl⟩ := newFiles_eq_ok_iff.mp hmade
    cases hread : FileHost.read featuresModule host with
    | error error after =>
      simp only [hmade, hread] at h
      cases h
    | ok text after =>
      simp only [hmade, hread] at h
      obtain ⟨rfl, -⟩ := EStateM.Result.ok.inj h
      exact ⟨text, rfl⟩

/-- Under every name that is accepted, the files of a feature are its templates with both
placeholders replaced together. It does not matter which one is replaced first, and none of them is
left, also where the name has their words. -/
theorem placeholders_replaced
    (prepares : Blueprint.prepare options (blueprint, host) = .ok () (prepared, left)) :
    let name := featureName options
    let values := [(typeToken, pascalCase name), (nameToken, name)]
    prepared.replacements = Replacements.ofList values ∧
      (∀ template ∈ templates,
        (Replacements.ofList values).render template.2 = replaceTogether values template.2 ∧
          (Replacements.ofList values.reverse).render template.2 =
            replaceTogether values template.2 ∧
          ∀ pair ∈ values, ¬pair.1.toList <:+: (replaceTogether values template.2).toList) ∧
      ∀ changes planned, Blueprint.generate (prepared, left) = .ok changes planned →
        ∃ text, changes =
          Change.creations (templates.map fun template =>
            (prepared.directory.join ⟨template.1⟩, replaceTogether values template.2)) ++
          [prepared.register text] := by
  intro name values
  obtain ⟨-, rfl, rfl⟩ := prepared_of_prepare prepares
  have hname := isLoose_featureName options
  have hvalues : values = tokenPairs (assignment name) := rfl
  refine ⟨rfl, fun template htemplate => ?_, fun changes planned generates => ?_⟩
  · obtain ⟨horders, hnone⟩ := render_template hname htemplate
    refine ⟨horders _ (List.Perm.refl _), horders _ (List.reverse_perm _), ?_⟩
    rw [hvalues]
    exact List.forall_mem_map.mpr hnone
  · obtain ⟨text, rfl⟩ := exists_register_of_generate generates
    have hfiles : (forFeature name).files = templates.map fun template =>
        ((forFeature name).directory.join ⟨template.1⟩, replaceTogether values template.2) := by
      refine List.map_congr_left fun template htemplate => ?_
      have hrendered := (render_template hname htemplate).1 _ (List.Perm.refl _)
      exact congrArg _ hrendered
    exact ⟨text, by rw [hfiles]⟩

/-- A feature whose name has the words of a placeholder. Of its five files, that of the handlers has
both placeholders in its template. -/
theorem placeholders_replaced_feature_type :
    let options := Options.ofList [("name", .text "Feature Type")]
    let host : Workspace := ⟨.withFiles [], .blank⟩
    let values := [(typeToken, "FeatureType"), (nameToken, "feature_type")]
    featureName options = "feature_type" ∧
      Blueprint.prepare options (start, host) = .ok () (forFeature "feature_type", host) ∧
      (∀ template ∈ templates,
        ¬typeToken.toList <:+:
            ((forFeature "feature_type").replacements.render template.2).toList ∧
          ¬nameToken.toList <:+:
            ((forFeature "feature_type").replacements.render template.2).toList) ∧
      ∃ text planned, Blueprint.generate (forFeature "feature_type", host) =
        .ok (Change.creations
            [(⟨"src/features/feature_type/mod.rs"⟩, replaceTogether values moduleTemplate),
              (⟨"src/features/feature_type/model.rs"⟩, replaceTogether values modelTemplate),
              (⟨"src/features/feature_type/service.rs"⟩, replaceTogether values serviceTemplate),
              (⟨"src/features/feature_type/handlers.rs"⟩, fromLines
                ["use super::service::FeatureTypeService;", "",
                  "/// Register the feature_type handlers",
                  "pub fn register() -> FeatureTypeService \x7b", "    FeatureTypeService::new()",
                  "\x7d"]),
              (⟨"src/features/feature_type/tests.rs"⟩, replaceTogether values testsTemplate)] ++
          [(forFeature "feature_type").register text]) planned := by
  intro options host values
  have hname : featureName options = "feature_type" := by decide +kernel
  have hpascal : pascalCase "feature_type" = "FeatureType" := by decide +kernel
  have husable : isUnusable (featureName options) = false := by decide +kernel
  have habsent : FileHost.has (forFeature (featureName options)).directory host = false := by
    decide +kernel
  have prepares : Blueprint.prepare options (start, host) = .ok () (forFeature _, host) :=
    prepare_of_absent husable habsent
  obtain ⟨hreplacements, hrendered, hplanned⟩ := placeholders_replaced prepares
  rw [hname] at prepares hreplacements hrendered hplanned
  rw [hpascal] at hplanned
  refine ⟨hname, prepares, fun template htemplate => ?_, ?_⟩
  · obtain ⟨htogether, -, hnone⟩ := hrendered template htemplate
    obtain ⟨htype, hother⟩ := List.forall_mem_cons.mp hnone
    rw [hreplacements, htogether]
    exact ⟨htype, hother (nameToken, "feature_type") (List.mem_singleton_self _)⟩
  · have hgenerates :
        Task.succeeds Blueprint.generate (forFeature "feature_type", host) = true := by
      decide +kernel
    obtain ⟨changes, planned, hchanges⟩ := Task.succeeds_iff.mp hgenerates
    obtain ⟨text, rfl⟩ := hplanned changes planned hchanges
    have hhandlers : replaceTogether values handlersTemplate = fromLines
        ["use super::service::FeatureTypeService;", "",
          "/// Register the feature_type handlers",
          "pub fn register() -> FeatureTypeService \x7b", "    FeatureTypeService::new()",
          "\x7d"] := by
      decide +kernel
    rw [← hhandlers]
    exact ⟨text, planned, hchanges⟩

end Generating

end FeatureBlueprint

end Scaffold
