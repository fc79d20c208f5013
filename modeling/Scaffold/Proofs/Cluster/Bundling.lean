import Mathlib.Data.List.Perm.Basic
import Scaffold.Proofs.Cluster.Offsets
import Scaffold.Proofs.Lifecycle.Applying

/-!
# Bundling edits

A bundle stands in the order of a cluster where the highest of its parts would stand, and is
applied as its parts one after the other. If no other edit of the file starts between two of its
parts, the parts stand where they would stand by themselves, and the bundle makes no difference to
what the cluster leaves. An edit that does start between two of them is applied after both, so
its offset no longer means the place it was generated for.
-/

namespace Scaffold

open Text

variable {ω : Type} [FileHost ω]

theorem Leaf.applyAll_append (first rest : List Leaf) :
    (applyAll (first ++ rest) : Task ChangeError ω Unit) =
      applyAll first >>= fun _ => applyAll rest := by
  induction first with
  | nil => rfl
  | cons leaf others ih => rw [List.cons_append, applyAll, applyAll, ih, bind_assoc]

namespace Change

/-- Changes are applied one behind the other. -/
theorem applyAll_append (first rest : List Change) :
    (applyAll (first ++ rest) : Task ChangeError ω Unit) =
      applyAll first >>= fun _ => applyAll rest := by
  induction first with
  | nil => rfl
  | cons change others ih => rw [List.cons_append, applyAll, applyAll, ih, bind_assoc]

theorem applyAll_singleton (change : Change) :
    (applyAll [change] : Task ChangeError ω Unit) = change.apply := bind_pure _

/-- Changes that are not refused are applied leaf by leaf. -/
theorem applyAll_eq_leaves {changes : List Change}
    (h : ∀ change ∈ changes, change.foreign? = none) :
    (applyAll changes : Task ChangeError ω Unit) = Leaf.applyAll (leavesOfAll changes) := by
  induction changes with
  | nil => rfl
  | cons change rest ih =>
    obtain ⟨hfirst, hrest⟩ := List.forall_mem_cons.mp h
    rw [applyAll, leavesOfAll, Leaf.applyAll_append, ← ih hrest, apply, hfirst]

/-- The change is an edit of the file with the order of its start. -/
def IsEditOf (path : Path) : Change → Prop
  | edit own order action => own.same path = true ∧ order = action.start.toInt64
  | _ => False

instance (path : Path) : DecidablePred (IsEditOf path)
  | edit _ _ _ => inferInstanceAs (Decidable (_ ∧ _))
  | bundle _ _ _ => inferInstanceAs (Decidable False)
  | noop _ _ => inferInstanceAs (Decidable False)

/-- An edit of a file names it in one of its spellings. -/
theorem IsEditOf.exists_edit {path : Path} {change : Change} (h : change.IsEditOf path) :
    ∃ own action, change = ofEdit own action ∧ own.same path = true := by
  cases change with
  | edit own order action => exact ⟨own, action, congrArg (edit own · action) h.2, h.1⟩
  | bundle own order parts => exact h.elim
  | noop own order => exact h.elim

/-- What stands in the place of a change when bundles are opened. -/
def spread : Change → List Change
  | bundle _ _ parts => parts
  | change => [change]

/-- An edit spreads to itself. -/
theorem spread_of_isEditOf {path : Path} {change : Change} (h : change.IsEditOf path) :
    change.spread = [change] := by
  obtain ⟨own, action, rfl, _⟩ := h.exists_edit
  rfl

section Bundle

variable {path own : Path} {parts : List Change}

/-- Every leaf of edits of a file names the file. -/
theorem path?_of_mem_leavesOfAll (edits : ∀ part ∈ parts, part.IsEditOf path) {leaf : Leaf}
    (hm : leaf ∈ leavesOfAll parts) :
    ∃ named, leaf.path? = some named ∧ named.same path = true := by
  induction parts with
  | nil => cases hm
  | cons part rest ih =>
    obtain ⟨hfirst, hrest⟩ := List.forall_mem_cons.mp edits
    obtain ⟨named, action, rfl, hsame⟩ := hfirst.exists_edit
    rw [leavesOfAll, List.mem_append] at hm
    cases hm with
    | inl hm =>
      have hleaf := List.mem_singleton.mp hm
      exact ⟨named, by rw [hleaf], hsame⟩
    | inr hm => exact ih hrest hm

/-- A bundle of edits of its file is applied as its parts. -/
theorem apply_bundle (howner : own.same path = true) (edits : ∀ part ∈ parts, part.IsEditOf path)
    (order : Int64) :
    ((bundle own order parts).apply : Task ChangeError ω Unit) = applyAll parts := by
  have howned : (bundle own order parts).foreign? = none := by
    rw [foreign?, Option.map_eq_none_iff, Leaf.firstForeign?, List.findSome?_eq_none_iff]
    intro leaf hm
    obtain ⟨named, hnamed, hsame⟩ := path?_of_mem_leavesOfAll edits hm
    have hown : named.same own = true := by
      rw [Path.same_iff, Path.same_iff.mp hsame, Path.same_iff.mp howner]
    rw [hnamed]
    exact if_pos hown
  have hparts : ∀ part ∈ parts, part.foreign? = none := by
    intro part hm
    obtain ⟨named, action, rfl, _⟩ := (edits part hm).exists_edit
    rfl
  rw [apply, howned, applyAll_eq_leaves hparts]
  rfl

end Bundle

/-- Opening bundles of edits of one file changes nothing of what is applied. -/
theorem applyAll_flatMap_spread {changes : List Change}
    (h : ∀ change ∈ changes, (applyAll change.spread : Task ChangeError ω Unit) = change.apply) :
    (applyAll (changes.flatMap spread) : Task ChangeError ω Unit) = applyAll changes := by
  induction changes with
  | nil => rfl
  | cons change rest ih =>
    obtain ⟨hfirst, hrest⟩ := List.forall_mem_cons.mp h
    rw [List.flatMap_cons, applyAll_append, hfirst, ih hrest, applyAll]

/-- The highest order of changes is that of one of them, and no other is above it. -/
theorem exists_highestOrder {changes : List Change} (hne : changes ≠ []) :
    ∃ highest ∈ changes, highest.order = highestOrder changes ∧
      ∀ change ∈ changes, change.order.toInt ≤ highest.order.toInt := by
  induction changes with
  | nil => exact absurd rfl hne
  | cons first rest ih =>
    cases rest with
    | nil =>
      exact ⟨first, List.mem_cons_self, rfl, List.forall_mem_singleton.mpr (Int.le_refl _)⟩
    | cons second others =>
      obtain ⟨highest, hm, horder, hall⟩ := ih (List.cons_ne_nil _ _)
      have hunfold : highestOrder (first :: second :: others) =
          if first.order ≤ highest.order then highest.order else first.order := by
        rw [highestOrder, horder]
        exact fun h => nomatch h
      by_cases hle : first.order ≤ highest.order
      · rw [hunfold, if_pos hle]
        refine ⟨highest, List.mem_cons_of_mem _ hm, rfl, ?_⟩
        rw [List.forall_mem_cons]
        exact ⟨Int64.le_iff_toInt_le.mp hle, hall⟩
      · rw [hunfold, if_neg hle]
        refine ⟨first, List.mem_cons_self, rfl, ?_⟩
        rw [List.forall_mem_cons]
        rw [Int64.le_iff_toInt_le] at hle
        refine ⟨Int.le_refl _, fun change hm => ?_⟩
        have hbelow := hall change hm
        omega

end Change

namespace Change

/-- The change has a lower order than each of the others, or a higher one. -/
def IsAside (others : List Change) (change : Change) : Prop :=
  (∀ other ∈ others, change.order.toInt < other.order.toInt) ∨
    ∀ other ∈ others, other.order.toInt < change.order.toInt

/-- Edits spread to themselves. -/
theorem flatMap_spread_of_edits {path : Path} {changes : List Change}
    (edits : ∀ change ∈ changes, change.IsEditOf path) : changes.flatMap spread = changes := by
  induction changes with
  | nil => rfl
  | cons change rest ih =>
    obtain ⟨hfirst, hrest⟩ := List.forall_mem_cons.mp edits
    rw [List.flatMap_cons, spread_of_isEditOf hfirst, ih hrest]
    rfl

end Change

namespace ChangeCluster

variable {path own : Path} {front parts back generated : List Change}

/-- A change of a plan with one bundle: the bundle, or an edit aside of it. -/
def InPlan (path own : Path) (parts : List Change) (change : Change) : Prop :=
  change = Change.multi own parts ∨ change.IsEditOf path ∧ change.IsAside parts

/-- Of two changes, what the first one stands for comes before what the second one stands for. -/
theorem order_lt_of_inPlan {first second : Change} (hfirst : InPlan path own parts first)
    (hsecond : InPlan path own parts second) (hle : second.order.toInt ≤ first.order.toInt)
    (hne : ∀ left ∈ first.spread, ∀ right ∈ second.spread, left.order.toInt ≠ right.order.toInt)
    {left right : Change} (hleft : left ∈ first.spread) (hright : right ∈ second.spread) :
    right.order.toInt < left.order.toInt := by
  have hapart := hne left hleft right hright
  cases hfirst with
  | inl hbundle =>
    subst hbundle
    have hpart : left ∈ parts := hleft
    cases hsecond with
    | inl hbundle =>
      subst hbundle
      exact absurd rfl (hne left hleft left hleft)
    | inr hedit =>
      obtain ⟨hedit, hbefore | hbehind⟩ := hedit
      · rw [Change.spread_of_isEditOf hedit, List.mem_singleton] at hright
        rw [hright]
        exact hbefore left hpart
      · -- An edit behind all parts does not come after the highest of them.
        obtain ⟨highest, hm, horder, _⟩ :=
          Change.exists_highestOrder (List.ne_nil_of_mem hpart)
        have hhigher := hbehind highest hm
        have hlower : second.order.toInt ≤ (Change.highestOrder parts).toInt := hle
        rw [← horder] at hlower
        omega
  | inr hedit =>
    rw [Change.spread_of_isEditOf hedit.1, List.mem_singleton] at hleft
    subst hleft
    cases hsecond with
    | inl hbundle =>
      subst hbundle
      have hpart : right ∈ parts := hright
      obtain ⟨highest, _, horder, hall⟩ := Change.exists_highestOrder (List.ne_nil_of_mem hpart)
      have hbelow := hall right hpart
      have habove : (Change.highestOrder parts).toInt ≤ left.order.toInt := hle
      rw [← horder] at habove
      omega
    | inr hedit =>
      rw [Change.spread_of_isEditOf hedit.1, List.mem_singleton] at hright
      subst hright
      omega

/-- With a bundle that lists its edits by falling order and all other edits aside of it, the
cluster opened is the cluster without the bundle. -/
theorem flatMap_spread_sort (same : (front ++ parts ++ back).Perm generated)
    (edits : ∀ change ∈ generated, change.IsEditOf path)
    (distinct : generated.Pairwise fun first second => first.order.toInt ≠ second.order.toInt)
    (falling : parts.Pairwise fun first second => second.order.toInt < first.order.toInt)
    (aside : ∀ other ∈ front ++ back, other.IsAside parts) :
    (sort (front ++ Change.multi own parts :: back)).flatMap Change.spread = sort generated := by
  have hedits : ∀ change ∈ front ++ parts ++ back, change.IsEditOf path :=
    fun change hm => edits change (same.mem_iff.mp hm)
  rw [List.forall_mem_append, List.forall_mem_append] at hedits
  rw [List.forall_mem_append] at aside
  have hspread : (front ++ Change.multi own parts :: back).flatMap Change.spread =
      front ++ parts ++ back := by
    rw [List.flatMap_append, List.flatMap_cons, Change.flatMap_spread_of_edits hedits.1.1,
      Change.flatMap_spread_of_edits hedits.2, List.append_assoc]
    rfl
  have hplan : ∀ change ∈ front ++ Change.multi own parts :: back,
      InPlan path own parts change := by
    rw [List.forall_mem_append, List.forall_mem_cons]
    exact ⟨fun change hm => .inr ⟨hedits.1.1 change hm, aside.1 change hm⟩, .inl rfl,
      fun change hm => .inr ⟨hedits.2 change hm, aside.2 change hm⟩⟩
  have hperm := sort_perm (front ++ Change.multi own parts :: back)
  have hsame := (hspread ▸ hperm.flatMap_right Change.spread).trans same
  have hdistinct := hsame.symm.pairwise distinct fun h => h.symm
  rw [List.pairwise_flatMap] at hdistinct
  refine (sort_eq_of_falling hsame ?_).symm
  rw [List.pairwise_flatMap]
  refine ⟨fun change hm => ?_, ?_⟩
  · cases hplan change (hperm.mem_iff.mp hm) with
    | inl hbundle =>
      rw [hbundle]
      exact falling
    | inr hedit =>
      rw [Change.spread_of_isEditOf hedit.1]
      exact List.pairwise_singleton _ _
  · apply ((sort_pairwise _).and hdistinct.2).imp_of_mem
    rintro first second hfirst hsecond ⟨hle, hne⟩ left hleft right hright
    exact order_lt_of_inPlan (hplan first (hperm.mem_iff.mp hfirst))
      (hplan second (hperm.mem_iff.mp hsecond)) hle hne hleft hright

/-- Such a bundle is applied where its parts would be applied without it. -/
theorem applyAll_sort_bundled (howner : own.same path = true)
    (same : (front ++ parts ++ back).Perm generated)
    (edits : ∀ change ∈ generated, change.IsEditOf path)
    (distinct : generated.Pairwise fun first second => first.order.toInt ≠ second.order.toInt)
    (falling : parts.Pairwise fun first second => second.order.toInt < first.order.toInt)
    (aside : ∀ other ∈ front ++ back, other.IsAside parts) :
    (Change.applyAll (sort (front ++ Change.multi own parts :: back)) :
      Task ChangeError ω Unit) = Change.applyAll (sort generated) := by
  rw [← flatMap_spread_sort same edits distinct falling aside]
  refine (Change.applyAll_flatMap_spread fun change hm => ?_).symm
  have hedits : ∀ change ∈ front ++ parts ++ back, change.IsEditOf path :=
    fun change hm => edits change (same.mem_iff.mp hm)
  rw [List.forall_mem_append, List.forall_mem_append] at hedits
  have hplanned := (sort_perm _).mem_iff.mp hm
  rw [List.mem_append, List.mem_cons] at hplanned
  have hsingle : change.IsEditOf path →
      (Change.applyAll change.spread : Task ChangeError ω Unit) = change.apply := by
    intro hedit
    rw [Change.spread_of_isEditOf hedit, Change.applyAll_singleton]
  obtain hm | rfl | hm := hplanned
  · exact hsingle (hedits.1.1 change hm)
  · exact (Change.apply_bundle howner hedits.1.2 _).symm
  · exact hsingle (hedits.2 change hm)

end ChangeCluster

namespace Edit

/-- The edit starts before each of the others or behind each of them. -/
def IsBeside (others : List Edit) (edit : Edit) : Prop :=
  (∀ other ∈ others, edit.start < other.start) ∨ ∀ other ∈ others, other.start < edit.start

instance (others : List Edit) (edit : Edit) : Decidable (edit.IsBeside others) :=
  inferInstanceAs (Decidable (_ ∨ _))

/-- A range in a text does not start behind its end. -/
theorem ValidIn.start_le {chars : List Char} {edit : Edit} (h : edit.ValidIn chars) :
    edit.start.toNat ≤ byteLength chars := by
  obtain ⟨before, after, hchars, hlength⟩ := isBoundary_iff.mp h.start
  rw [hchars, byteLength_append]
  omega

end Edit

namespace Change

variable {path : Path} {chars : List Char} {change : Change}

/-- An edit of a file is on it. -/
theorem IsEditOf.isOn (h : change.IsEditOf path) : change.isOn path = true := by
  obtain ⟨own, action, rfl, hsame⟩ := h.exists_edit
  exact hsame

/-- An edit of a file is plain. -/
theorem IsEditOf.isPlain (h : change.IsEditOf path) : change.IsPlain := by
  obtain ⟨own, action, rfl, _⟩ := h.exists_edit
  rfl

/-- In a text that is not too long, the order of an edit is its start. -/
theorem IsEditOf.exists_start {changes : List Change} (edits : ∀ change ∈ changes,
    change.IsEditOf path) (short : byteLength chars < 2 ^ 63)
    (valid : ∀ edit ∈ changes.filterMap edit?, edit.ValidIn chars) (hm : change ∈ changes) :
    ∃ edit : Edit, change.edit? = some edit ∧ change.order.toInt = edit.start.toNat := by
  obtain ⟨own, action, rfl, _⟩ := (edits change hm).exists_edit
  have hle := (valid action (List.mem_filterMap.mpr ⟨_, hm, rfl⟩)).start_le
  exact ⟨action, rfl, toInt_toInt64 (by omega)⟩

end Change

namespace Session

/-- Files that are there are not created. -/
theorem ensureFiles_of_present {host : MemoryHost} {files : List Path}
    (h : ∀ file ∈ files, host.files.contains file = true) :
    ensureFiles files host = .ok () host := by
  induction files with
  | nil => rfl
  | cons file rest ih =>
    obtain ⟨hfirst, hrest⟩ := List.forall_mem_cons.mp h
    have hensured : (FileHost.ensureFile file : Task ChangeError MemoryHost Unit) host =
        .ok () host := congrArg (EStateM.Result.ok ()) (if_pos hfirst)
    rw [ensureFiles, Task.bind_of_ok hensured]
    exact ih hrest

/-- Of a plan for one file that is there, only the changes are left to apply. -/
theorem applyCluster_of_present {host : MemoryHost} {path : Path} {content : String}
    {planned : List Change} (held : host.content? path = some content)
    (h : ∀ change ∈ planned, change.isOn path = true) :
    applyCluster (ChangeCluster.ofChanges planned) host =
      Change.applyAll (ChangeCluster.sort planned) host := by
  have hfiles : ∀ file ∈ (ChangeCluster.ofChanges planned).files,
      host.files.contains file = true := by
    intro file hm
    have hnamed := (ChangeCluster.mem_files_ofChanges planned file).mp ⟨file, hm, file.same_self⟩
    obtain ⟨change, hchange⟩ := List.exists_mem_of_ne_nil _ hnamed
    obtain ⟨hsorted, hon⟩ := List.mem_filter.mp hchange
    have hsame := Change.same_of_isOn hon
      (h change ((ChangeCluster.sort_perm planned).mem_iff.mp hsorted))
    rw [PathMap.contains, PathMap.find?_congr host.files hsame]
    exact Option.isSome_of_eq_some held
  exact Task.bind_of_ok (ensureFiles_of_present hfiles)

end Session

namespace ChangeCluster

variable {host : MemoryHost} {path own : Path} {content : String}
  {front parts back generated : List Change}

/-- Compatible edits of a file that is there are applied to a host. -/
theorem applyAll_sort_of_edits (held : host.content? path = some content)
    (short : byteLength content.toList < 2 ^ 63)
    (edits : ∀ change ∈ generated, change.IsEditOf path)
    (compatible : Edit.Compatible content.toList (generated.filterMap Change.edit?)) :
    ∃ left, Change.applyAll (sort generated) host = .ok () left ∧ left.content? path =
      some (String.ofList (Edit.simultaneous (generated.filterMap Change.edit?)
        content.toList)) := by
  have hon : Change.on path generated = generated :=
    List.filter_eq_self.mpr fun change hm => (edits change hm).isOn
  have hplain : ∀ change ∈ Change.on path generated, change.IsPlain := by
    rw [hon]
    exact fun change hm => (edits change hm).isPlain
  have hstarts : Edit.SameStarts (Change.editsOn path generated)
      (generated.filterMap Change.edit?) := by
    rw [Change.editsOn, hon]
    exact fun _ => rfl
  have hsole := Change.applyAll_on_sort_sole hplain short compatible hstarts
  rw [← MemoryHost.sole_of_content? held] at hsole
  have hmirrors := MemoryHost.mirrors_applyAll (sort generated)
  have hsucceeds : Task.succeeds (Change.applyAll (sort generated)) host = true := by
    rw [← hmirrors.succeeds_eq, Change.applyAll_succeeds_iff]
    intro other hne
    obtain ⟨change, hchange⟩ := List.exists_mem_of_ne_nil _ hne
    obtain ⟨hsorted, hother⟩ := List.mem_filter.mp hchange
    have hsame := Change.same_of_isOn hother
      (edits change ((sort_perm generated).mem_iff.mp hsorted)).isOn
    rw [Change.on_congr hsame, Contents.sole_congr hsame, Task.succeeds, hsole]
  obtain ⟨_, left, hleft⟩ := Task.succeeds_iff.mp hsucceeds
  have hbucket := Change.applyAll_sole_of_ok (hmirrors.of_ok hleft) path
  rw [hsole] at hbucket
  exact ⟨left, hleft, MemoryHost.content?_of_sole held hleft (EStateM.Result.ok.inj hbucket).2.symm⟩

/-- A bundle leaves what its edits leave by themselves, as long as no other edit starts between
two of them. Let edits of disjoint ranges of a file and of different starts be planned with the
orders of their starts. If some of them are bundled from the last to the first, and each of the
others starts before all or behind all of these, then the cluster with the bundle at any place of
the plan leaves the same host as the cluster without it, in which the file holds its content with
all edits made at once. -/
theorem applyCluster_bundled (held : host.content? path = some content)
    (short : byteLength content.toList < 2 ^ 63) (owned : own.same path = true)
    (same : (front ++ parts ++ back).Perm generated)
    (edits : ∀ change ∈ generated, change.IsEditOf path)
    (valid : ∀ edit ∈ generated.filterMap Change.edit?, edit.ValidIn content.toList)
    (disjoint : (generated.filterMap Change.edit?).Pairwise Edit.Apart)
    (distinct : (generated.filterMap Change.edit?).Pairwise fun first second =>
      first.start ≠ second.start)
    (falling : (parts.filterMap Change.edit?).Pairwise fun first second =>
      second.start < first.start)
    (beside : ∀ other ∈ (front ++ back).filterMap Change.edit?,
      other.IsBeside (parts.filterMap Change.edit?)) :
    ∃ left, Session.applyCluster (ofChanges generated) host = .ok () left ∧
      Session.applyCluster (ofChanges (front ++ Change.multi own parts :: back)) host =
        .ok () left ∧
      left.content? path = some (String.ofList
        (Edit.simultaneous (generated.filterMap Change.edit?) content.toList)) := by
  have hcompatible : Edit.Compatible content.toList (generated.filterMap Change.edit?) :=
    ⟨valid, disjoint, distinct.imp fun hne heq => absurd heq hne⟩
  obtain ⟨left, hleft, hcontent⟩ := applyAll_sort_of_edits held short edits hcompatible
  have hstart : ∀ change ∈ generated, ∃ edit : Edit, change.edit? = some edit ∧
      change.order.toInt = edit.start.toNat :=
    fun change hm => Change.IsEditOf.exists_start edits short valid hm
  have hpart : ∀ change ∈ parts, change ∈ generated := fun change hm =>
    same.mem_iff.mp (List.mem_append_left _ (List.mem_append_right _ hm))
  have hother : ∀ change ∈ front ++ back, change ∈ generated := by
    intro change hm
    rw [← same.mem_iff]
    simp only [List.mem_append] at hm ⊢
    exact hm.imp .inl id
  -- What is said of the starts of edits holds of the orders of their changes.
  have hdistinct : generated.Pairwise fun first second =>
      first.order.toInt ≠ second.order.toInt := by
    refine (List.pairwise_filterMap.mp distinct).imp_of_mem fun hfirst hsecond hne heq => ?_
    obtain ⟨edit, hedit, horder⟩ := hstart _ hfirst
    obtain ⟨edit', hedit', horder'⟩ := hstart _ hsecond
    rw [horder, horder'] at heq
    exact hne edit hedit edit' hedit' (UInt64.toNat_inj.mp (Int.ofNat_inj.mp heq))
  have hfalling : parts.Pairwise fun first second =>
      second.order.toInt < first.order.toInt := by
    refine (List.pairwise_filterMap.mp falling).imp_of_mem fun hfirst hsecond hlt => ?_
    obtain ⟨edit, hedit, horder⟩ := hstart _ (hpart _ hfirst)
    obtain ⟨edit', hedit', horder'⟩ := hstart _ (hpart _ hsecond)
    have hstarts := hlt edit hedit edit' hedit'
    rw [UInt64.lt_iff_toNat_lt] at hstarts
    omega
  have haside : ∀ other ∈ front ++ back, other.IsAside parts := by
    intro other hm
    obtain ⟨edit, hedit, horder⟩ := hstart other (hother other hm)
    refine (beside edit (List.mem_filterMap.mpr ⟨other, hm, hedit⟩)).imp ?_ ?_ <;>
    · intro hall part hp
      obtain ⟨edit', hedit', horder'⟩ := hstart part (hpart part hp)
      have hlt := hall edit' (List.mem_filterMap.mpr ⟨part, hp, hedit'⟩)
      rw [UInt64.lt_iff_toNat_lt] at hlt
      omega
  refine ⟨left, ?_, ?_, hcontent⟩
  · rw [Session.applyCluster_of_present held fun change hm => (edits change hm).isOn, hleft]
  · rw [Session.applyCluster_of_present held, applyAll_sort_bundled owned same edits hdistinct
      hfalling haside, hleft]
    rw [List.forall_mem_append, List.forall_mem_cons]
    exact ⟨fun change hm => (edits change (hother change (List.mem_append_left _ hm))).isOn, owned,
      fun change hm => (edits change (hother change (List.mem_append_right _ hm))).isOn⟩

/-- Two edits in the middle of the accented file, one of its first letter and one at its end. -/
def touchingPlan : List Change :=
  [.remove ⟨"a"⟩ 0 1, .replace ⟨"a"⟩ 3 6 "!", .insert ⟨"a"⟩ 7 ".", .insert ⟨"a//"⟩ 1 "X"]

/-- The edits in the middle can be bundled. -/
theorem applyCluster_touchingPlan_bundled :
    ∃ left, Session.applyCluster (ofChanges [.remove ⟨"a"⟩ 0 1,
        .multi ⟨"a/."⟩ [.replace ⟨"a"⟩ 3 6 "!", .insert ⟨"a//"⟩ 1 "X"], .insert ⟨"a"⟩ 7 "."])
          accentHost = .ok () left ∧
      left.content? ⟨"a"⟩ = some "Xé!z." := by
  have hsame : ([.remove ⟨"a"⟩ 0 1] ++ [.replace ⟨"a"⟩ 3 6 "!", .insert ⟨"a//"⟩ 1 "X"] ++
      [.insert ⟨"a"⟩ 7 "."] : List Change).Perm touchingPlan :=
    .cons _ (.cons _ (.swap _ _ _))
  have hheld : accentHost.content? ⟨"a"⟩ = some "aé€z" := rfl
  have howned : Path.same ⟨"a/."⟩ ⟨"a"⟩ = true := by decide
  obtain ⟨left, _, hbundled, hcontent⟩ :=
    applyCluster_bundled hheld (by decide) howned hsame (by decide) (by decide) (by decide)
      (by decide) (by decide) (by decide)
  exact ⟨left, hbundled, hcontent⟩

/-- Three letters put into a file, from the first to the last. -/
def lettersPlan : List Change :=
  [.insert ⟨"f"⟩ 1 "X", .insert ⟨"f"⟩ 3 "Y", .insert ⟨"f"⟩ 5 "Z"]

/-- The plan with the first and the last letter bundled. -/
def straddlingPlan : List Change :=
  [.insert ⟨"f"⟩ 3 "Y", .multi ⟨"f"⟩ [.insert ⟨"f"⟩ 5 "Z", .insert ⟨"f"⟩ 1 "X"]]

/-- A file of six letters. -/
def lettersHost : MemoryHost := .withFiles [(⟨"f"⟩, "abcdef")]

/-- A bundle around another edit displaces it. The three insertions have good offsets of different
starts, two of them are bundled from the last to the first, and both plans can be applied; but the
letter between them is put in one byte too early, since the first letter is there already. -/
theorem straddling_bundle_displaces_edit :
    (∀ change ∈ lettersPlan, change.IsEditOf ⟨"f"⟩) ∧
      (∀ edit ∈ lettersPlan.filterMap Change.edit?, edit.ValidIn "abcdef".toList) ∧
      (lettersPlan.filterMap Change.edit?).Pairwise Edit.Apart ∧
      (lettersPlan.filterMap Change.edit?).Pairwise (fun first second =>
        first.start ≠ second.start) ∧
      ∃ plain bundled, Session.applyCluster (ofChanges lettersPlan) lettersHost = .ok () plain ∧
        Session.applyCluster (ofChanges straddlingPlan) lettersHost = .ok () bundled ∧
        plain.content? ⟨"f"⟩ = some "aXbcYdeZf" ∧ bundled.content? ⟨"f"⟩ = some "aXbYcdeZf" := by
  refine ⟨by decide, by decide, by decide, by decide, ?_⟩
  have hletters : sort lettersPlan = lettersPlan.reverse := sort_of_ascending (by decide)
  have hstraddling : sort straddlingPlan = straddlingPlan.reverse := sort_of_ascending (by decide)
  rw [ofChanges, ofChanges, hletters, hstraddling]
  exact ⟨_, _, rfl, rfl, rfl, rfl⟩

end ChangeCluster

end Scaffold
