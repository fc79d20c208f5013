import Scaffold.Proofs.Cluster.Bundling
import Scaffold.Proofs.Product.Files
import Scaffold.Proofs.Text.Feeds

/-!
# The module of all features

A feature is registered by two lines in the module of all features, one that declares it and one
that takes over its entry point. Each is put in behind the last line of its kind, wherever that is,
so that the old text of the module stays in order. Nothing that a feature plans can fail.
-/

namespace Scaffold

open Text

namespace Edit

/-- Edits that only put texts in leave every character in its order. -/
theorem sublist_simultaneousFrom {edits : List Edit}
    (inserts : ∀ edit ∈ edits, edit.stop = edit.start) (position : Nat) (chars : List Char) :
    chars.Sublist (simultaneousFrom edits position chars) := by
  have hkeeps : ∀ position, edits.any (deletesAt position) = false := by
    intro position
    rw [List.any_eq_false]
    intro edit hedit hdeletes
    obtain ⟨hstart, hstop⟩ := deletesAt_eq_true.mp hdeletes
    rw [inserts edit hedit] at hstop
    omega
  induction chars generalizing position with
  | nil => exact List.nil_sublist _
  | cons char rest ih =>
    rw [simultaneousFrom, hkeeps, if_neg Bool.false_ne_true, List.append_assoc,
      List.singleton_append]
    exact ((ih _).cons_cons char).trans (List.sublist_append_right _ _)

/-- Texts can be put in at once wherever a text can be cut. -/
theorem compatible_of_inserts {chars : List Char} {edits : List Edit}
    (inserts : ∀ edit ∈ edits, edit.stop = edit.start)
    (boundaries : ∀ edit ∈ edits, IsBoundary chars edit.start.toNat) : Compatible chars edits where
  valid edit hedit := by
    have hboundary := boundaries edit hedit
    have hstop := inserts edit hedit
    exact ⟨hstop ▸ Nat.le_refl _, hboundary, hstop ▸ hboundary⟩
  disjoint := by
    apply List.pairwise_of_forall_mem_list
    intro first hfirst second hsecond
    rw [Apart, Before, Before, inserts first hfirst, inserts second hsecond]
    exact Nat.le_total _ _
  ties := by
    apply List.pairwise_of_forall_mem_list
    intro first hfirst second hsecond _ hdeletes
    rw [inserts first hfirst] at hdeletes
    exact absurd hdeletes (UInt64.lt_irrefl _)

end Edit

namespace FeatureBlueprint

section Positions

variable {opening : List Char} {offset : Nat} {lines : List (List Char)}

/-- There is no last line of a kind exactly if no line is of the kind. -/
theorem behindLastIn?_eq_none_iff :
    behindLastIn? opening offset lines = none ↔
      ∀ line ∈ lines, opening.isPrefixOf (dropBlank line) = false := by
  induction lines generalizing offset with
  | nil => exact iff_of_true rfl (List.forall_mem_nil _)
  | cons line rest ih =>
    rw [behindLastIn?, Option.or_eq_none_iff, ih, List.forall_mem_cons, and_comm]
    cases opening.isPrefixOf (dropBlank line) <;> simp

/-- The position behind the last line of a kind is behind some of the lines, and none of the others
is of the kind. -/
theorem exists_parts_of_behindLastIn? {position : Nat}
    (h : behindLastIn? opening offset lines = some position) :
    ∃ front back, front ++ back = lines ∧ position = offset + byteLength front.flatten ∧
      ∀ line ∈ back, opening.isPrefixOf (dropBlank line) = false := by
  induction lines generalizing offset with
  | nil => cases h
  | cons line rest ih =>
    rw [behindLastIn?] at h
    cases hlater : behindLastIn? opening (offset + byteLength line) rest with
    | some later =>
      rw [hlater] at h
      cases h
      obtain ⟨front, back, hparts, hlength, hback⟩ := ih hlater
      refine ⟨line :: front, back, congrArg (line :: ·) hparts, ?_, hback⟩
      rw [hlength, List.flatten_cons, byteLength_append]
      omega
    | none =>
      rw [hlater, Option.none_or] at h
      split at h
      case isTrue =>
        cases h
        exact ⟨[line], rest, rfl, by rw [List.flatten_singleton],
          behindLastIn?_eq_none_iff.mp hlater⟩
      case isFalse => cases h

/-- A text can be cut behind the last line of a kind. -/
theorem isBoundary_of_behindLast? {opening text : String} {position : Nat}
    (h : behindLast? opening text = some position) : IsBoundary text.toList position := by
  obtain ⟨front, back, hparts, hlength, -⟩ := exists_parts_of_behindLastIn? h
  refine isBoundary_iff.mpr ⟨front.flatten, back.flatten, ?_, by omega⟩
  rw [← List.flatten_append, hparts, flatten_feedLines]

/-- Where the line goes that declares a feature: behind the last declaration, or at the start. -/
def declaredAt (text : String) : Nat := (behindLast? "pub mod " text).getD 0

/-- Where the line goes that takes over a feature: behind the last one of its kind, or where the
declaration goes. -/
def takenAt (text : String) : Nat := (behindLast? "pub use " text).getD (declaredAt text)

/-- The declaration goes between two characters. -/
theorem isBoundary_declaredAt (text : String) : IsBoundary text.toList (declaredAt text) := by
  unfold declaredAt
  cases h : behindLast? "pub mod " text with
  | none => exact isBoundary_iff.mpr ⟨[], text.toList, rfl, rfl⟩
  | some position => exact isBoundary_of_behindLast? h

/-- What takes the feature over goes between two characters. -/
theorem isBoundary_takenAt (text : String) : IsBoundary text.toList (takenAt text) := by
  unfold takenAt
  cases h : behindLast? "pub use " text with
  | none => exact isBoundary_declaredAt text
  | some position => exact isBoundary_of_behindLast? h

/-- Positions in a text that is not too long are kept by 64 bits. -/
theorem toNat_toUInt64_of_isBoundary {chars : List Char} {position : Nat}
    (short : byteLength chars < 2 ^ 63) (h : IsBoundary chars position) :
    position.toUInt64.toNat = position := by
  obtain ⟨before, after, rfl, rfl⟩ := isBoundary_iff.mp h
  rw [byteLength_append] at short
  have hsize : UInt64.size = 2 ^ 64 := rfl
  exact UInt64.toNat_ofNat_of_lt' (by omega)

end Positions

variable (blueprint : FeatureBlueprint) (text : String)

/-- The name of the type of the feature. -/
def typeName : String := (blueprint.replacements.get? typeToken).getD ""

/-- The two lines that register the feature, put in where they go. -/
def insertions : List Edit :=
  [.insert (declaredAt text).toUInt64
      (separator text (declaredAt text) ++ declaration blueprint.feature ++ "\n"),
    .insert (takenAt text).toUInt64
      (separator text (takenAt text) ++ takeover blueprint.feature blueprint.typeName ++ "\n")]

/-- The module of all features once the feature is registered. -/
def registered : String := String.ofList (Edit.simultaneous (blueprint.insertions text) text.toList)

/-- The registration bundles the two insertions in the order in which they can be applied. -/
theorem register_eq :
    blueprint.register text = Change.multi featuresModule
      (ChangeCluster.sort ((blueprint.insertions text).map (Change.ofEdit featuresModule))) := rfl

/-- Registering a feature deletes nothing. -/
theorem inserts_of_insertions : ∀ edit ∈ blueprint.insertions text, edit.stop = edit.start :=
  List.forall_mem_cons.mpr ⟨rfl, List.forall_mem_singleton.mpr rfl⟩

/-- Registering a feature keeps the old text of the module in its order. -/
theorem sublist_registered : text.toList.Sublist (blueprint.registered text).toList := by
  rw [registered, String.toList_ofList]
  exact Edit.sublist_simultaneousFrom (blueprint.inserts_of_insertions text) 0 text.toList

variable {blueprint text}

/-- A feature can be registered in every text that is not too long. -/
theorem apply_register (short : byteLength text.toList < 2 ^ 63) :
    (blueprint.register text).apply (⟨text⟩ : SoleFile) =
      .ok () ⟨blueprint.registered text⟩ := by
  have hedits : ∀ part ∈ (blueprint.insertions text).map (Change.ofEdit featuresModule),
      part.IsEditOf featuresModule := by
    intro part hpart
    obtain ⟨edit, -, rfl⟩ := List.mem_map.mp hpart
    exact ⟨featuresModule.same_self, rfl⟩
  have hsorted : ∀ part ∈ ChangeCluster.sort
      ((blueprint.insertions text).map (Change.ofEdit featuresModule)),
      part.IsEditOf featuresModule :=
    fun part hpart => hedits part ((ChangeCluster.sort_perm _).mem_iff.mp hpart)
  have hon : Change.on featuresModule (ChangeCluster.sort
      ((blueprint.insertions text).map (Change.ofEdit featuresModule))) =
        ChangeCluster.sort ((blueprint.insertions text).map (Change.ofEdit featuresModule)) :=
    List.filter_eq_self.mpr fun part hpart => (hsorted part hpart).isOn
  have hplain : ∀ part ∈ Change.on featuresModule
      ((blueprint.insertions text).map (Change.ofEdit featuresModule)), part.IsPlain :=
    fun part hpart => (hedits part (List.mem_filter.mp hpart).1).isPlain
  have hboundaries : ∀ edit ∈ blueprint.insertions text,
      IsBoundary text.toList edit.start.toNat := by
    refine List.forall_mem_cons.mpr ⟨?_, List.forall_mem_singleton.mpr ?_⟩
    · have hboundary := isBoundary_declaredAt text
      have hkept := toNat_toUInt64_of_isBoundary short hboundary
      exact hkept.symm ▸ hboundary
    · have hboundary := isBoundary_takenAt text
      have hkept := toNat_toUInt64_of_isBoundary short hboundary
      exact hkept.symm ▸ hboundary
  have hcompatible := Edit.compatible_of_inserts (blueprint.inserts_of_insertions text) hboundaries
  have hsame : Change.editsOn featuresModule
      ((blueprint.insertions text).map (Change.ofEdit featuresModule)) =
        blueprint.insertions text := rfl
  have happly := Change.applyAll_on_sort_sole hplain short hcompatible
    (fun position => by rw [hsame])
  -- The bundle holds edits of the module alone, so it does what its sorted parts do.
  rw [hon] at happly
  rw [register_eq, Change.multi, Change.apply_bundle featuresModule.same_self hsorted, happly]
  rfl

section Applying

/-- What a path holds once the feature was created and registered: the module of all features has
its lines, its files have their texts, and everything else is as it was. -/
def contentAfter (blueprint : FeatureBlueprint) (contents : Contents) (path : Path) : Option String :=
  if path.same featuresModule = true then
    some (blueprint.registered (contents.text featuresModule))
  else if ∃ file ∈ blueprint.files, file.1.same path = true then
    some (Change.createdText blueprint.files path)
  else contents path.components

variable {contents : Contents} {path : Path} {name : String}

/-- The module has the feature registered. -/
theorem contentAfter_module (h : path.same featuresModule = true) :
    blueprint.contentAfter contents path =
      some (blueprint.registered (contents.text featuresModule)) := if_pos h

/-- The files of the feature have their texts. -/
theorem contentAfter_file (hname : IsFeatureName name) {file : Path × String}
    (hfile : file ∈ (forFeature name).files) :
    (forFeature name).contentAfter contents file.1 = some file.2 := by
  have hmodule := same_featuresModule_of_mem_files hname hfile
  rw [contentAfter, if_neg (Bool.eq_false_iff.mp hmodule), if_pos ⟨file, hfile, file.1.same_self⟩,
    Change.createdText_of_sole (nodup_components_files hname) hfile]

/-- Where the files of the feature are absent, what is held besides the module stays. -/
theorem contentAfter_of_held (habsent : ∀ file ∈ blueprint.files, contents file.1.components = none)
    (hmodule : ¬path.same featuresModule = true) {content : String}
    (held : contents path.components = some content) :
    blueprint.contentAfter contents path = some content := by
  have hapart : ¬∃ file ∈ blueprint.files, file.1.same path = true := by
    rintro ⟨file, hfile, hsame⟩
    rw [← Path.same_iff.mp hsame, habsent file hfile] at held
    cases held
  rw [contentAfter, if_neg hmodule, if_neg hapart, held]

/-- The module of all features is none of the files of the feature. -/
theorem not_exists_same_of_module (hname : IsFeatureName name)
    (h : path.same featuresModule = true) :
    ¬∃ file ∈ (forFeature name).files, file.1.same path = true := by
  rintro ⟨file, hfile, hsame⟩
  have hother := same_featuresModule_of_mem_files hname hfile
  rw [Path.same, beq_eq_false_iff_ne] at hother
  exact hother ((Path.same_iff.mp hsame).trans (Path.same_iff.mp h))

/-- The module of all features is changed by the registration alone, and every other path by the
creations alone. -/
theorem on_changes (hname : IsFeatureName name) (text : String) (path : Path) :
    Change.on path
      (Change.creations (forFeature name).files ++ [(forFeature name).register text]) =
        if path.same featuresModule = true then [(forFeature name).register text]
        else Change.on path (Change.creations (forFeature name).files) := by
  have hregister : ((forFeature name).register text).isOn path = path.same featuresModule :=
    Path.same_comm _ _
  rw [Change.on, List.filter_append, List.filter_singleton, hregister]
  split
  case isTrue hpath =>
    have hnone := Change.on_creations_eq_nil_iff.mpr (not_exists_same_of_module hname hpath)
    rw [← Change.on, hnone, hpath]
    rfl
  case isFalse hpath =>
    rw [Bool.eq_false_iff.mpr hpath]
    exact List.append_nil _

variable {ω : Type} [FileHost ω] [ContentHost ω] {host : ω}

/-- A feature whose files are absent can be created and registered. -/
theorem applyCluster_feature (hname : IsFeatureName name)
    (habsent : ∀ file ∈ (forFeature name).files, FileHost.has file.1 host = false)
    (short : byteLength ((ContentHost.contents host).text featuresModule).toList < 2 ^ 63) :
    ∃ left, Session.applyCluster (ChangeCluster.ofChanges
        (Change.creations (forFeature name).files ++
          [(forFeature name).register ((ContentHost.contents host).text featuresModule)])) host =
        .ok () left ∧
      ∀ path : Path, ContentHost.contents left path.components =
        (forFeature name).contentAfter (ContentHost.contents host) path := by
  set text := (ContentHost.contents host).text featuresModule with htext
  have hbuckets : ∀ path, Change.on path (Change.creations (forFeature name).files ++
        [(forFeature name).register text]) ≠ [] →
      Change.applyAll (Change.on path (ChangeCluster.sort (Change.creations
        (forFeature name).files ++ [(forFeature name).register text])))
          ((ContentHost.contents host).sole path) =
            .ok () ⟨if path.same featuresModule = true then (forFeature name).registered text
              else Change.createdText (forFeature name).files path⟩ := by
    intro path hsome
    have hbucket := on_changes hname text path
    split at hbucket
    case isTrue hpath =>
      have hsole : (ContentHost.contents host).sole path = ⟨text⟩ := by
        rw [Contents.sole, Contents.text, Path.same_iff.mp hpath, htext, Contents.text]
      have hsort : ChangeCluster.sort [(forFeature name).register text] =
          [(forFeature name).register text] := List.mergeSort_singleton _
      rw [if_pos hpath, hsole, Change.on, ChangeCluster.filter_sort, ← Change.on, hbucket, hsort]
      exact Task.bind_of_ok (apply_register short)
    case isFalse hpath =>
      rw [hbucket] at hsome
      rw [if_neg hpath]
      exact Session.applyAll_creations_of_absent habsent hbucket
        (not_not.mp (mt Change.on_creations_eq_nil_iff.mpr hsome))
  obtain ⟨contents, happlied, hcontents⟩ := Session.applyCluster_of_buckets hbuckets
  obtain ⟨left, hleft, hview⟩ := Session.applyCluster_of_contents happlied
  refine ⟨left, hleft, fun path => ?_⟩
  rw [hview, hcontents, on_changes hname, contentAfter]
  by_cases hpath : path.same featuresModule = true
  · rw [if_pos hpath, if_pos hpath, if_pos hpath, if_neg (List.cons_ne_nil _ _)]
  · rw [if_neg hpath, if_neg hpath, if_neg hpath]
    by_cases hexists : ∃ file ∈ (forFeature name).files, file.1.same path = true
    · rw [if_pos hexists, if_neg fun hnil => Change.on_creations_eq_nil_iff.mp hnil hexists]
    · rw [if_neg hexists, if_pos (Change.on_creations_eq_nil_iff.mpr hexists)]

end Applying

end FeatureBlueprint

end Scaffold
