import Mathlib.Data.List.Lex
import Mathlib.Data.String.Basic
import Mathlib.Order.Compare
import Scaffold.Proofs.Result
import Scaffold.Version

/-!
# The precedence of versions

One version precedes another by its numbers, and among versions of the same numbers by the
identifiers of a release to come; the build plays no role. Whoever runs a version that precedes the
one needed is warned. The comparison behind the warning is a total order in which of otherwise equal
versions the build decides, so it goes by precedence as long as it is not left to the build. No two
versions warn against each other, and warnings pass on from one version to the next.
-/

namespace Scaffold

namespace VersionIdentifier

/-- Numbers rank before words. -/
def rank : VersionIdentifier → Nat
  | number _ _ => 0
  | word _ => 1

/-- The value of a number. -/
def value : VersionIdentifier → Nat
  | number value _ => value
  | word _ => 0

/-- How many zeros stand in front of a number. -/
def zeros : VersionIdentifier → Nat
  | number _ zeros => zeros
  | word _ => 0

/-- The text of a word. -/
def text : VersionIdentifier → String
  | number _ _ => ""
  | word text => text

/-- Identifiers are compared by rank, then by value and zeros, and then by text. -/
theorem compare_eq_compareLex :
    compare = compareLex (compareOn rank)
      (compareLex (compareOn value) (compareLex (compareOn zeros) (compareOn text))) := by
  funext left right
  cases left with
  | number value zeros =>
    cases right with
    | number other others =>
      change _ = Ordering.eq.then ((Ord.compare value other).then
        ((Ord.compare zeros others).then (Ord.compare "" "")))
      rw [Std.ReflOrd.compare_self, Ordering.then_eq]
      rfl
    | word text => rfl
  | word text => cases right <;> rfl

instance : Std.TransCmp compare := by
  rw [compare_eq_compareLex]
  infer_instance

instance : Std.LawfulEqCmp compare where
  eq_of_compare {left right} h := by
    cases left with
    | number value zeros =>
      cases right with
      | number other others =>
        obtain ⟨hvalue, hzeros⟩ := Ordering.then_eq_eq.mp h
        rw [compare_eq_iff_eq.mp hvalue, compare_eq_iff_eq.mp hzeros]
      | word text => cases h
    | word text =>
      cases right with
      | number other others => cases h
      | word other => exact congrArg word (compare_eq_iff_eq.mp h)

/-- Identifiers are compared from the first to the last. -/
theorem compareAll_eq_compareLex : compareAll = List.compareLex compare := by
  funext left right
  induction left generalizing right with
  | nil => cases right <;> rfl
  | cons first rest ih =>
    cases right with
    | nil => rfl
    | cons other others => rw [compareAll, ih, List.compareLex_cons_cons]

instance : Std.TransCmp compareAll := by
  rw [compareAll_eq_compareLex]
  infer_instance

instance : Std.LawfulEqCmp compareAll := by
  rw [compareAll_eq_compareLex]
  infer_instance

/-- An identifier is below another one: numbers by their values, words by the order of their
characters, and every number below every word. -/
inductive Below : VersionIdentifier → VersionIdentifier → Prop
  /-- A number is below a greater one. -/
  | numbers {left right leftZeros rightZeros : Nat} (less : left < right) :
      Below (.number left leftZeros) (.number right rightZeros)
  /-- A number is below a word. -/
  | mixed (value zeros : Nat) (text : String) : Below (.number value zeros) (.word text)
  /-- A word is below one that comes later in the order of characters. -/
  | words {left right : String} (less : left < right) : Below (.word left) (.word right)

instance : Std.Irrefl Below where
  irrefl
    | .number _ _, .numbers less => Nat.lt_irrefl _ less
    | .word _, .words less => lt_irrefl _ less

/-- No list of identifiers is below itself. -/
theorem not_lex_self (identifiers : List VersionIdentifier) :
    ¬List.Lex Below identifiers identifiers := by
  induction identifiers with
  | nil => exact nofun
  | cons first rest ih => rwa [List.lex_cons_iff]

/-- A number without zeros in front; the number zero is one zero. -/
def IsPlain : VersionIdentifier → Prop
  | number value zeros => zeros = if value = 0 then 1 else 0
  | word _ => True

/-- Without zeros in front, the comparison goes by values and characters. -/
theorem compare_eq_lt_iff {left right : VersionIdentifier} (hleft : left.IsPlain)
    (hright : right.IsPlain) : left.compare right = .lt ↔ left.Below right := by
  constructor
  · intro h
    cases left with
    | number value zeros =>
      cases right with
      | number other others =>
        rw [compare, Ordering.then_eq_lt] at h
        obtain hless | ⟨hsame, hzeros⟩ := h
        · exact .numbers (compare_lt_iff_lt.mp hless)
        · obtain rfl := compare_eq_iff_eq.mp hsame
          rw [IsPlain] at hleft hright
          rw [hleft, hright, Std.ReflOrd.compare_self] at hzeros
          cases hzeros
      | word text => exact .mixed value zeros text
    | word text =>
      cases right with
      | number other others => cases h
      | word other => exact .words (compare_lt_iff_lt.mp h)
  · rintro (hless | ⟨value, zeros, text⟩ | hless)
    · rw [compare, compare_lt_iff_lt.mpr hless]
      rfl
    · rfl
    · exact compare_lt_iff_lt.mpr hless

/-- Lists without zeros in front of numbers are compared identifier by identifier, and where one
list goes on and the other one does not, the shorter one is below. -/
theorem compareAll_eq_lt_iff {left right : List VersionIdentifier}
    (hleft : ∀ identifier ∈ left, identifier.IsPlain)
    (hright : ∀ identifier ∈ right, identifier.IsPlain) :
    compareAll left right = .lt ↔ List.Lex Below left right := by
  induction left generalizing right with
  | nil =>
    cases right with
    | nil => exact ⟨nofun, nofun⟩
    | cons other others => exact ⟨fun _ => .nil, fun _ => rfl⟩
  | cons first rest ih =>
    cases right with
    | nil => exact ⟨nofun, nofun⟩
    | cons other others =>
      obtain ⟨hfirst, hrest⟩ := List.forall_mem_cons.mp hleft
      obtain ⟨hother, hothers⟩ := List.forall_mem_cons.mp hright
      rw [compareAll, Ordering.then_eq_lt, compare_eq_lt_iff hfirst hother, ih hrest hothers]
      constructor
      · rintro (hbelow | ⟨hsame, hlater⟩)
        · exact .rel hbelow
        · obtain rfl := Std.LawfulEqCmp.eq_of_compare hsame
          exact .cons hlater
      · rintro (_ | hbelow | hlater)
        · exact .inl hbelow
        · exact .inr ⟨Std.ReflCmp.compare_self, hlater⟩

end VersionIdentifier

/-- What the precedence of versions takes for granted of the order of identifiers: it is total for
releases to come and for builds, a release is above all that leads to it, and what leads to it is
compared identifier by identifier. -/
class LawfulIdentifierOrder [IdentifierOrder] : Prop where
  /-- Releases to come are in a total order. -/
  transCandidates : Std.TransCmp IdentifierOrder.compareCandidates
  /-- No two releases to come take the same place in it. -/
  eqCandidates : Std.LawfulEqCmp IdentifierOrder.compareCandidates
  /-- Builds are in a total order, which may be any. -/
  transBuilds : Std.TransCmp IdentifierOrder.compareBuilds
  /-- Where numbers have no zeros in front, the identifiers decide from the first to the last. -/
  compareCandidates_eq_lt_iff : ∀ {left right : List VersionIdentifier},
    (∀ identifier ∈ left, identifier.IsPlain) → (∀ identifier ∈ right, identifier.IsPlain) →
      (IdentifierOrder.compareCandidates left right = .lt ↔
        left ≠ [] ∧ (right = [] ∨ List.Lex VersionIdentifier.Below left right))

attribute [instance] LawfulIdentifierOrder.transCandidates LawfulIdentifierOrder.eqCandidates
  LawfulIdentifierOrder.transBuilds

namespace Version

open VersionIdentifier

/-- A version precedes another one; of the first thing in which they differ, it has the lower. -/
inductive Precedes (left right : Version) : Prop
  /-- It has the lower major number. -/
  | major (less : left.major < right.major)
  /-- It has the lower minor number. -/
  | minor (major : left.major = right.major) (less : left.minor < right.minor)
  /-- It has the lower patch number. -/
  | patch (major : left.major = right.major) (minor : left.minor = right.minor)
      (less : left.patch < right.patch)
  /-- It leads to a release of its numbers, and the other one is that release. -/
  | release (major : left.major = right.major) (minor : left.minor = right.minor)
      (patch : left.patch = right.patch) (coming : left.candidate ≠ [])
      (released : right.candidate = [])
  /-- Both lead to a release, and its identifiers are below those of the other one. -/
  | candidate (major : left.major = right.major) (minor : left.minor = right.minor)
      (patch : left.patch = right.patch) (coming : left.candidate ≠ [])
      (below : List.Lex Below left.candidate right.candidate)

/-- Two versions differ at most in the build. -/
def SameButBuild (left right : Version) : Prop :=
  left.major = right.major ∧ left.minor = right.minor ∧ left.patch = right.patch ∧
    left.candidate = right.candidate

/-- No version precedes one from which it differs at most in the build. -/
theorem SameButBuild.not_precedes {left right : Version} (h : left.SameButBuild right) :
    ¬left.Precedes right := by
  obtain ⟨major, minor, patch, candidate⟩ := h
  rintro (hless | ⟨-, hless⟩ | ⟨-, -, hless⟩ | ⟨-, -, -, coming, released⟩ | ⟨-, -, -, -, below⟩)
  · exact hless.ne major
  · exact hless.ne minor
  · exact hless.ne patch
  · exact coming (candidate.trans released)
  · rw [candidate] at below
    exact not_lex_self _ below

/-- Candidates are compared like lists, but the empty list is the highest. -/
theorem compareCandidates_eq_compareLex :
    compareCandidates = compareLex (compareOn List.isEmpty) compareAll := by
  funext left right
  cases left <;> cases right <;> rfl

instance : Std.TransCmp compareCandidates := by
  rw [compareCandidates_eq_compareLex]
  infer_instance

instance : Std.LawfulEqCmp compareCandidates where
  eq_of_compare {left right} h := by
    rw [compareCandidates_eq_compareLex] at h
    exact Std.LawfulEqCmp.eq_of_compare (Ordering.then_eq_eq.mp h).2

/-- What is compared by a part of it is ordered as the parts are. -/
theorem transCmp_on {α β : Type} (cmp : β → β → Ordering) [Std.TransCmp cmp] (part : α → β) :
    Std.TransCmp fun left right => cmp (part left) (part right) where
  eq_swap := Std.OrientedCmp.eq_swap
  isLE_trans := Std.TransCmp.isLE_trans

/-- A candidate is below the release, and candidates are compared identifier by identifier. -/
theorem compareCandidates_eq_lt_iff {left right : List VersionIdentifier}
    (hleft : ∀ identifier ∈ left, identifier.IsPlain)
    (hright : ∀ identifier ∈ right, identifier.IsPlain) :
    compareCandidates left right = .lt ↔ left ≠ [] ∧ (right = [] ∨ List.Lex Below left right) := by
  rw [← compareAll_eq_lt_iff hleft hright]
  cases left <;> cases right <;> simp [compareCandidates]

instance : LawfulIdentifierOrder where
  transCandidates := inferInstanceAs (Std.TransCmp compareCandidates)
  eqCandidates := inferInstanceAs (Std.LawfulEqCmp compareCandidates)
  transBuilds := inferInstanceAs (Std.TransCmp compareAll)
  compareCandidates_eq_lt_iff := compareCandidates_eq_lt_iff

section Ordering

variable [IdentifierOrder]

/-- Versions are compared by their numbers, then by their candidates, and then by their builds. -/
theorem compare_eq_compareLex :
    compare = compareLex (compareOn major) (compareLex (compareOn minor)
      (compareLex (compareOn patch)
        (compareLex
          (fun left right => IdentifierOrder.compareCandidates left.candidate right.candidate)
          (fun left right => IdentifierOrder.compareBuilds left.build right.build)))) := rfl

instance [LawfulIdentifierOrder] : Std.TransCmp compare := by
  have := transCmp_on IdentifierOrder.compareCandidates candidate
  have := transCmp_on IdentifierOrder.compareBuilds build
  rw [compare_eq_compareLex]
  infer_instance

/-- The numbers of candidates have no zeros in front. -/
def HasPlainCandidate (version : Version) : Prop :=
  ∀ identifier ∈ version.candidate, identifier.IsPlain

/-- A version is lower than another one if it precedes it, or if the build decides so. -/
theorem compare_eq_lt_iff [LawfulIdentifierOrder] {left right : Version}
    (hleft : left.HasPlainCandidate) (hright : right.HasPlainCandidate) :
    left.compare right = .lt ↔
      left.Precedes right ∨
        left.SameButBuild right ∧ IdentifierOrder.compareBuilds left.build right.build = .lt := by
  have hcandidate := LawfulIdentifierOrder.compareCandidates_eq_lt_iff hleft hright
  simp only [compare, Ordering.then_eq_lt, compare_lt_iff_lt, hcandidate,
    Std.LawfulEqCmp.compare_eq_iff_eq]
  constructor
  · rintro (hmajor | ⟨major, hminor | ⟨minor, hpatch | ⟨patch, ⟨coming, released | below⟩ |
      ⟨candidate, hbuild⟩⟩⟩⟩)
    · exact .inl (.major hmajor)
    · exact .inl (.minor major hminor)
    · exact .inl (.patch major minor hpatch)
    · exact .inl (.release major minor patch coming released)
    · exact .inl (.candidate major minor patch coming below)
    · exact .inr ⟨⟨major, minor, patch, candidate⟩, hbuild⟩
  · rintro ((hmajor | ⟨major, hminor⟩ | ⟨major, minor, hpatch⟩ |
      ⟨major, minor, patch, coming, released⟩ | ⟨major, minor, patch, coming, below⟩) |
      ⟨⟨major, minor, patch, candidate⟩, hbuild⟩)
    · exact .inl hmajor
    · exact .inr ⟨major, .inl hminor⟩
    · exact .inr ⟨major, .inr ⟨minor, .inl hpatch⟩⟩
    · exact .inr ⟨major, .inr ⟨minor, .inr ⟨patch, .inl ⟨coming, .inl released⟩⟩⟩⟩
    · exact .inr ⟨major, .inr ⟨minor, .inr ⟨patch, .inl ⟨coming, .inr below⟩⟩⟩⟩
    · exact .inr ⟨major, .inr ⟨minor, .inr ⟨patch, .inr ⟨candidate, hbuild⟩⟩⟩⟩

end Ordering

section Reading

/-- The value of digits grows from the value before them. -/
theorem le_foldl_digits (digits : List Char) (start : Nat) :
    start ≤ digits.foldl (fun value digit => value * 10 + (digit.toNat - '0'.toNat)) start := by
  induction digits generalizing start with
  | nil => exact Nat.le_refl start
  | cons digit rest ih =>
    have hstep : start ≤ start * 10 + (digit.toNat - '0'.toNat) := by omega
    exact le_trans hstep (ih _)

/-- Digits without a zero in front have a value above zero. -/
theorem valueOf_pos {digit : Char} {rest : List Char} (isDigit : digit.isDigit = true)
    (notZero : digit ≠ '0') : 0 < valueOf (digit :: rest) := by
  have hleast : '0'.toNat ≤ digit.toNat := by
    simp only [Char.isDigit, Bool.and_eq_true, decide_eq_true_eq] at isDigit
    exact isDigit.1
  have hother : digit.toNat ≠ '0'.toNat := fun h => notZero (Char.toNat_inj.mp h)
  have hpositive : 0 < 0 * 10 + (digit.toNat - '0'.toNat) := by omega
  exact lt_of_lt_of_le hpositive (le_foldl_digits rest _)

/-- An identifier that is read for a candidate has no zeros in front. -/
theorem isPlain_of_parseCandidate? {piece : List Char} {identifier : VersionIdentifier}
    (h : parseCandidate? piece = some identifier) : identifier.IsPlain := by
  unfold parseCandidate? at h
  split at h
  · cases h
  · next hzeros =>
    unfold parseIdentifier? at h
    split at h
    · cases h
    · next hpiece =>
      split at h
      · next hdigits =>
        cases h
        rw [hdigits, Bool.true_and] at hzeros
        cases piece with
        | nil => exact absurd rfl hpiece
        | cons digit rest =>
          by_cases hzero : digit = '0'
          · -- A zero that nothing follows.
            subst hzero
            have hrest : rest = [] := by simpa [hasLeadingZero] using hzeros
            subst hrest
            rfl
          · have hdigit : digit.isDigit = true := List.all_eq_true.mp hdigits digit List.mem_cons_self
            have hvalue : 0 < valueOf (digit :: rest) := valueOf_pos hdigit hzero
            rw [IsPlain, if_neg hvalue.ne', List.takeWhile_cons_of_neg (by simpa using hzero),
              List.length_nil]
      · cases h
        trivial

/-- Identifiers that are read for a candidate have no zeros in front. -/
theorem isPlain_of_parseLists? {chars : List Char}
    {lists : List VersionIdentifier × List VersionIdentifier} (h : parseLists? chars = some lists) :
    ∀ identifier ∈ lists.1, identifier.IsPlain := by
  -- The list of the build is read behind that of the candidate and leaves it as it is.
  have hkept {candidate : List VersionIdentifier} {readBuild : Option (List VersionIdentifier)}
      (h : (readBuild >>= fun build => some (candidate, build)) = some lists) :
      candidate = lists.1 := by
    obtain ⟨build, -, h⟩ := Option.bind_eq_some_iff.mp h
    cases h
    rfl
  unfold parseLists? at h
  dsimp only at h
  intro identifier hm
  split at h
  · obtain ⟨candidate, hcandidate, h⟩ := Option.bind_eq_some_iff.mp h
    cases hcandidate
    rw [← show [] = lists.1 by split at h <;> exact hkept h] at hm
    cases hm
  · obtain ⟨candidate, hcandidate, h⟩ := Option.bind_eq_some_iff.mp h
    rw [← show candidate = lists.1 by split at h <;> exact hkept h] at hm
    obtain ⟨piece, -, hpiece⟩ := exists_of_mapM_eq_some hcandidate hm
    exact isPlain_of_parseCandidate? hpiece

/-- The candidate of a version that is read has no zeros in front of numbers. -/
theorem hasPlainCandidate_of_parse? {text : String} {version : Version}
    (h : parse? text = some version) : version.HasPlainCandidate := by
  unfold parse? at h
  dsimp only at h
  split at h
  · obtain ⟨major, -, h⟩ := Option.bind_eq_some_iff.mp h
    obtain ⟨minor, -, h⟩ := Option.bind_eq_some_iff.mp h
    obtain ⟨patch, -, h⟩ := Option.bind_eq_some_iff.mp h
    obtain ⟨lists, hlists, h⟩ := Option.bind_eq_some_iff.mp h
    cases h
    exact isPlain_of_parseLists? hlists
  · cases h

/-- A letter in front does not change how the candidate is read. -/
theorem hasPlainCandidate_of_parseTagged? {text : String} {version : Version}
    (h : parseTagged? text = some version) : version.HasPlainCandidate := by
  unfold parseTagged? at h
  split at h <;> exact hasPlainCandidate_of_parse? h

end Reading

section Warning

variable [IdentifierOrder] {running needed name : String} {runningVersion neededVersion : Version}

/-- Of versions that can be read, the lower one is warned against the higher one. -/
theorem warning?_of_parsed (hrunning : parseTagged? running = some runningVersion)
    (hneeded : parseTagged? needed = some neededVersion) :
    warning? running name needed =
      if runningVersion.compare neededVersion = .lt then
        some ("Blueprint '" ++ name ++ "' was written for CLI version " ++ needed ++
          " or newer, you are running " ++ running)
      else none := by
  unfold warning?
  rw [hrunning, hneeded]
  simp only [Option.bind_eq_bind, Option.bind_some, beq_iff_eq]

/-- A warning is given only about versions that can be read, and of which the one running is lower
in the order of versions. -/
theorem warning?_isSome_iff :
    (warning? running name needed).isSome ↔
      ∃ runningVersion neededVersion, parseTagged? running = some runningVersion ∧
        parseTagged? needed = some neededVersion ∧
        runningVersion.compare neededVersion = .lt := by
  constructor
  · intro h
    obtain ⟨warning, hwarning⟩ := Option.isSome_iff_exists.mp h
    obtain ⟨runningVersion, hrunning, h⟩ := Option.bind_eq_some_iff.mp hwarning
    obtain ⟨neededVersion, hneeded, -⟩ := Option.bind_eq_some_iff.mp h
    rw [warning?_of_parsed hrunning hneeded] at hwarning
    refine ⟨runningVersion, neededVersion, hrunning, hneeded, ?_⟩
    by_contra hnot
    rw [if_neg hnot] at hwarning
    cases hwarning
  · rintro ⟨runningVersion, neededVersion, hrunning, hneeded, hlower⟩
    rw [warning?_of_parsed hrunning hneeded, if_pos hlower]
    rfl

/-- Whoever runs a version that precedes the one needed is warned, and nobody else, unless the
versions differ in the build alone and the one that runs has the lower. No two versions ever warn
against each other, and warnings pass on from one version to the next. -/
theorem warning?_goes_by_precedence [LawfulIdentifierOrder]
    (hrunning : parseTagged? running = some runningVersion)
    (hneeded : parseTagged? needed = some neededVersion) (name : String) :
    (runningVersion.Precedes neededVersion →
      warning? running name needed =
        some ("Blueprint '" ++ name ++ "' was written for CLI version " ++ needed ++
          " or newer, you are running " ++ running)) ∧
    (¬runningVersion.Precedes neededVersion →
      (warning? running name needed = none ↔
        ¬(runningVersion.SameButBuild neededVersion ∧
          IdentifierOrder.compareBuilds runningVersion.build neededVersion.build = .lt))) ∧
    (∀ other, (warning? running name needed).isSome → warning? needed other running = none) ∧
    ∀ third other last : String, (warning? running name needed).isSome →
      (warning? needed other third).isSome → (warning? running last third).isSome := by
  have hlower := compare_eq_lt_iff (hasPlainCandidate_of_parseTagged? hrunning)
    (hasPlainCandidate_of_parseTagged? hneeded)
  refine ⟨fun hprecedes => ?_, fun hnot => ?_, fun other h => ?_, fun third other last h hnext => ?_⟩
  · rw [warning?_of_parsed hrunning hneeded, if_pos (hlower.mpr (.inl hprecedes))]
  · have hbuild := hlower.trans (or_iff_right hnot)
    rw [warning?_of_parsed hrunning hneeded, ← hbuild]
    simp only [ite_eq_right_iff, reduceCtorEq, imp_false]
  · rw [← Option.not_isSome_iff_eq_none]
    intro hback
    obtain ⟨lower, higher, hlow, hhigh, hless⟩ := warning?_isSome_iff.mp h
    obtain ⟨first, second, hfirst, hsecond, hgreater⟩ := warning?_isSome_iff.mp hback
    cases hhigh.symm.trans hfirst
    cases hlow.symm.trans hsecond
    rw [← Std.OrientedCmp.gt_iff_lt, hless] at hgreater
    cases hgreater
  · obtain ⟨lowest, middle, hlowest, hmiddle, hless⟩ := warning?_isSome_iff.mp h
    obtain ⟨between, highest, hbetween, hhighest, hgreater⟩ := warning?_isSome_iff.mp hnext
    cases hmiddle.symm.trans hbetween
    exact warning?_isSome_iff.mpr
      ⟨lowest, highest, hlowest, hhighest, Std.TransCmp.lt_trans hless hgreater⟩

end Warning

/-- Candidates are compared number by number, although nine comes behind ten in the order of
characters, and the build of the version that runs does not matter. -/
theorem warning?_goes_by_numbers_of_candidates :
    warning? "v1.0.0-rc.9+late" "page" "1.0.0-rc.10" =
        some ("Blueprint 'page' was written for CLI version 1.0.0-rc.10 or newer, " ++
          "you are running v1.0.0-rc.9+late") ∧
      warning? "1.0.0-rc.10" "page" "v1.0.0-rc.9+late" = none ∧
      warning? "1.0.0" "page" "1.0.0-rc.10" = none ∧
      (warning? "v1.0.0-rc.9+late" "page" "1.0.0-rc.x").isSome := by
  have hninth : parseTagged? "v1.0.0-rc.9+late" =
      some ⟨1, 0, 0, [.word "rc", .number 9 0], [.word "late"]⟩ := by decide
  have htenth : parseTagged? "1.0.0-rc.10" = some ⟨1, 0, 0, [.word "rc", .number 10 0], []⟩ := by
    decide
  have hrelease : parseTagged? "1.0.0" = some ⟨1, 0, 0, [], []⟩ := by decide
  obtain ⟨warns, -, never, passes⟩ := warning?_goes_by_precedence hninth htenth "page"
  have hwarned := warns
    (.candidate rfl rfl rfl (List.cons_ne_nil _ _) (.cons (.rel (.numbers (by decide)))))
  have hunwarned : warning? "1.0.0" "page" "1.0.0-rc.10" = none := by
    refine ((warning?_goes_by_precedence hrelease htenth "page").2.1 ?_).mpr (by
      simp [SameButBuild])
    rintro (hless | ⟨-, hless⟩ | ⟨-, -, hless⟩ | ⟨-, -, -, coming, -⟩ | ⟨-, -, -, coming, -⟩)
    any_goals exact absurd hless (by decide)
    all_goals exact coming rfl
  have hsome := Option.isSome_of_eq_some hwarned
  exact ⟨hwarned, never "page" hsome, hunwarned, passes _ "page" "page" hsome (by decide)⟩

/-- Versions that differ in the build alone precede one another in no direction, but the one with
the higher build is taken for a newer one. -/
theorem newer_build_alone_warns :
    ∃ runningVersion neededVersion,
      parseTagged? "1.0.0" = some runningVersion ∧ parseTagged? "1.0.0+1" = some neededVersion ∧
        runningVersion.SameButBuild neededVersion ∧
        ¬runningVersion.Precedes neededVersion ∧
        (warning? "1.0.0" "page" "1.0.0+1").isSome := by
  have hsame : SameButBuild ⟨1, 0, 0, [], []⟩ ⟨1, 0, 0, [], [.number 1 0]⟩ := ⟨rfl, rfl, rfl, rfl⟩
  exact ⟨⟨1, 0, 0, [], []⟩, ⟨1, 0, 0, [], [.number 1 0]⟩, by decide, by decide, hsame,
    hsame.not_precedes, by decide⟩

end Version

end Scaffold
