import Scaffold.Proofs.Change.Revise

/-!
# Edits that fit a content

An edit fits a content if its range is in order, does not reach past the end and lies between
characters of the UTF-8 form. It then replaces exactly the bytes of its range. An edit that does
not fit fails with one error, which tells the first fault of its range: the order of its ends, then
its start, then its end.
-/

namespace Scaffold

namespace Text

/-- The UTF-8 form of a text has as many bytes as its characters have together. -/
theorem utf8ByteSize_ofList (chars : List Char) :
    (String.ofList chars).utf8ByteSize = byteLength chars := by
  induction chars with
  | nil => rfl
  | cons char rest ih =>
    have hcons : String.ofList (char :: rest) = String.singleton char ++ String.ofList rest := by
      rw [String.singleton_eq_ofList, ← String.ofList_append, List.singleton_append]
    rw [hcons, String.utf8ByteSize_append, String.utf8ByteSize_singleton, ih, byteLength]

theorem utf8ByteSize_eq (content : String) : content.utf8ByteSize = byteLength content.toList := by
  rw [← utf8ByteSize_ofList, String.ofList_toList]

/-- A position can be cut exactly if it is valid in the UTF-8 form of the text. -/
theorem isBoundary_iff_isValid {content : String} {position : Nat} :
    IsBoundary content.toList position ↔ (⟨position⟩ : String.Pos.Raw).IsValid content := by
  rw [isBoundary_iff, String.Pos.Raw.isValid_iff_exists_append]
  constructor
  · rintro ⟨before, after, hchars, hlength⟩
    refine ⟨String.ofList before, String.ofList after, ?_, ?_⟩
    · rw [← String.ofList_append, ← hchars, String.ofList_toList]
    · rw [String.Pos.Raw.ext_iff, String.byteIdx_rawEndPos, utf8ByteSize_ofList, hlength]
  · rintro ⟨before, after, rfl, hposition⟩
    refine ⟨before.toList, after.toList, String.toList_append, ?_⟩
    rw [← utf8ByteSize_eq, ← String.byteIdx_rawEndPos, ← hposition]

end Text

namespace Edit

/-- The range of the edit lies in the content, between its characters. -/
structure Fits (edit : Edit) (content : String) : Prop where
  /-- The ends are in order. -/
  start_le_stop : edit.start.toNat ≤ edit.stop.toNat
  /-- The range does not reach past the end. -/
  stop_le_size : edit.stop.toNat ≤ content.utf8ByteSize
  /-- The range starts between two characters. -/
  start_isValid : (⟨edit.start.toNat⟩ : String.Pos.Raw).IsValid content
  /-- The range ends between two characters. -/
  stop_isValid : (⟨edit.stop.toNat⟩ : String.Pos.Raw).IsValid content

/-- The bytes of the range are replaced by those of the text, and all others are kept. -/
def Replaces (edit : Edit) (content revised : String) : Prop :=
  revised.toByteArray = content.toByteArray.extract 0 edit.start.toNat ++ edit.text.toByteArray ++
    content.toByteArray.extract edit.stop.toNat content.utf8ByteSize

/-- The first fault of the range of an edit in a content. -/
inductive Misfits (edit : Edit) (path : Path) (content : String) : ChangeError → Prop
  /-- The start lies behind the end. -/
  | reversed (order : edit.stop.toNat < edit.start.toNat) :
      Misfits edit path content (.invalidRange path edit.start.toNat edit.stop.toNat)
  /-- The start lies past the content. -/
  | startBeyond (order : edit.start.toNat ≤ edit.stop.toNat)
      (beyond : content.utf8ByteSize < edit.start.toNat) :
      Misfits edit path content (.outOfBounds path edit.start.toNat content.utf8ByteSize)
  /-- The start lies inside a character. -/
  | startInside (order : edit.start.toNat ≤ edit.stop.toNat)
      (within : edit.start.toNat ≤ content.utf8ByteSize)
      (inside : ¬(⟨edit.start.toNat⟩ : String.Pos.Raw).IsValid content) :
      Misfits edit path content (.notBoundary path edit.start.toNat)
  /-- Only the end lies past the content. -/
  | stopBeyond (order : edit.start.toNat ≤ edit.stop.toNat)
      (start : (⟨edit.start.toNat⟩ : String.Pos.Raw).IsValid content)
      (beyond : content.utf8ByteSize < edit.stop.toNat) :
      Misfits edit path content (.outOfBounds path edit.stop.toNat content.utf8ByteSize)
  /-- Only the end lies inside a character. -/
  | stopInside (order : edit.start.toNat ≤ edit.stop.toNat)
      (start : (⟨edit.start.toNat⟩ : String.Pos.Raw).IsValid content)
      (within : edit.stop.toNat ≤ content.utf8ByteSize)
      (inside : ¬(⟨edit.stop.toNat⟩ : String.Pos.Raw).IsValid content) :
      Misfits edit path content (.notBoundary path edit.stop.toNat)

end Edit

section Checking

variable {edit : Edit} {path : Path} {content : String} {offset : Nat}

/-- An offset between two characters passes the check. -/
theorem checkOffset_of_isValid (h : (⟨offset⟩ : String.Pos.Raw).IsValid content) (path : Path) :
    checkOffset path content offset = .ok () :=
  checkOffset_of_isBoundary (Text.isBoundary_iff_isValid.mpr h) path

/-- An offset beyond the content is out of its bounds. -/
theorem checkOffset_of_beyond (h : content.utf8ByteSize < offset) :
    checkOffset path content offset = .error (.outOfBounds path offset content.utf8ByteSize) := by
  rw [Text.utf8ByteSize_eq] at h ⊢
  rw [checkOffset, if_pos h]

/-- An offset inside a character is refused. -/
theorem checkOffset_of_inside (hwithin : offset ≤ content.utf8ByteSize)
    (hinside : ¬(⟨offset⟩ : String.Pos.Raw).IsValid content) :
    checkOffset path content offset = .error (.notBoundary path offset) := by
  have hcut : Text.cutAt? content.toList offset = none := by
    rw [← Text.isBoundary_iff_isValid, Text.IsBoundary, Bool.not_eq_true,
      Option.isSome_eq_false_iff, Option.isNone_iff_eq_none] at hinside
    exact hinside
  rw [Text.utf8ByteSize_eq] at hwithin
  rw [checkOffset, if_neg (Nat.not_lt.mpr hwithin), hcut]

/-- The bytes around and in the range of an edit whose parts of the content are known. -/
theorem replaces_of_parts {before middle after : List Char}
    (hcontent : content.toList = before ++ middle ++ after)
    (hstart : Text.byteLength before = edit.start.toNat)
    (hstop : Text.byteLength before + Text.byteLength middle = edit.stop.toNat) :
    edit.Replaces content (String.ofList (before ++ edit.text.toList ++ after)) := by
  have hbytes : content.toByteArray =
      before.utf8Encode ++ middle.utf8Encode ++ after.utf8Encode := by
    rw [← String.ofList_toList (s := content), hcontent, String.toByteArray_ofList,
      List.utf8Encode_append, List.utf8Encode_append]
  have hsize (chars : List Char) : chars.utf8Encode.size = Text.byteLength chars := by
    rw [← Text.utf8ByteSize_ofList, ← String.size_toByteArray, String.toByteArray_ofList]
  have hfront : content.toByteArray.extract 0 edit.start.toNat = before.utf8Encode := by
    rw [hbytes, ByteArray.append_assoc]
    exact ByteArray.extract_append_eq_left (by rw [hsize, hstart])
  have hback : content.toByteArray.extract edit.stop.toNat content.utf8ByteSize =
      after.utf8Encode := by
    rw [← String.size_toByteArray, hbytes]
    refine ByteArray.extract_append_eq_right ?_ ?_
    · rw [ByteArray.size_append, hsize, hsize, hstop]
    · rw [ByteArray.size_append]
  rw [Edit.Replaces, hfront, hback, String.toByteArray_ofList, List.utf8Encode_append,
    List.utf8Encode_append, ← String.toByteArray_ofList (l := edit.text.toList),
    String.ofList_toList]

end Checking

namespace Edit

variable {edit : Edit} {path : Path} {content revised : String} {error : ChangeError}

/-- An edit that fits replaces its range. -/
theorem Fits.revise (h : edit.Fits content) (path : Path) :
    ∃ revised, edit.Replaces content revised ∧ edit.revise path content = .ok revised := by
  have hstart := Text.isBoundary_iff_isValid.mpr h.start_isValid
  have hstop := Text.isBoundary_iff_isValid.mpr h.stop_isValid
  obtain ⟨before, middle, after, hcontent, hbefore, hmiddle⟩ :=
    Text.exists_parts h.start_le_stop hstart hstop
  have hturns : edit.Turns content.toList (before ++ edit.text.toList ++ after) :=
    ⟨before, middle, after, hcontent, hbefore, hmiddle, rfl⟩
  exact ⟨_, replaces_of_parts hcontent hbefore hmiddle, revise_of_turns hturns path⟩

/-- An edit that does not fit fails with the first fault of its range. -/
theorem Misfits.revise (h : edit.Misfits path content error) :
    edit.revise path content = .error error := by
  have hchecked : checkRange path content edit.start.toNat edit.stop.toNat = .error error := by
    cases h with
    | reversed order => rw [checkRange, if_pos order]
    | startBeyond order beyond =>
      rw [checkRange, if_neg (Nat.not_lt.mpr order), checkOffset_of_beyond beyond]
    | startInside order within inside =>
      rw [checkRange, if_neg (Nat.not_lt.mpr order), checkOffset_of_inside within inside]
    | stopBeyond order start beyond =>
      rw [checkRange, if_neg (Nat.not_lt.mpr order), checkOffset_of_isValid start]
      exact checkOffset_of_beyond beyond
    | stopInside order start within inside =>
      rw [checkRange, if_neg (Nat.not_lt.mpr order), checkOffset_of_isValid start]
      exact checkOffset_of_inside within inside
  rw [Edit.revise, hchecked]

/-- An edit fits a content or has a first fault in it. -/
theorem fits_or_misfits (edit : Edit) (path : Path) (content : String) :
    edit.Fits content ∨ ∃ error, edit.Misfits path content error := by
  by_cases horder : edit.start.toNat ≤ edit.stop.toNat
  case neg => exact .inr ⟨_, .reversed (Nat.not_le.mp horder)⟩
  by_cases hstart : (⟨edit.start.toNat⟩ : String.Pos.Raw).IsValid content
  case neg =>
    by_cases hwithin : edit.start.toNat ≤ content.utf8ByteSize
    · exact .inr ⟨_, .startInside horder hwithin hstart⟩
    · exact .inr ⟨_, .startBeyond horder (Nat.not_le.mp hwithin)⟩
  by_cases hwithin : edit.stop.toNat ≤ content.utf8ByteSize
  case neg => exact .inr ⟨_, .stopBeyond horder hstart (Nat.not_le.mp hwithin)⟩
  by_cases hstop : (⟨edit.stop.toNat⟩ : String.Pos.Raw).IsValid content
  · exact .inl ⟨horder, hwithin, hstart, hstop⟩
  · exact .inr ⟨_, .stopInside horder hstart hwithin hstop⟩

/-- What takes the place of a content is determined by its bytes. -/
theorem Replaces.unique {other : String} (h : edit.Replaces content revised)
    (hother : edit.Replaces content other) : revised = other :=
  String.toByteArray_inj.mp (Eq.trans h (Eq.symm hother))

variable {host left : MemoryHost}

/-- An edit that fits is written. -/
theorem apply_of_revise_ok (h : edit.revise path (host.text path) = .ok revised) :
    edit.apply path host = .ok () (host.put path revised) := by
  have hread : (FileHost.read path : Task ChangeError MemoryHost String) host =
      .ok (host.text path) host := rfl
  rw [apply_eq, Task.bind_of_ok hread, h]
  rfl

theorem apply_of_revise_error (h : edit.revise path (host.text path) = .error error) :
    edit.apply path host = .error error host := by
  have hread : (FileHost.read path : Task ChangeError MemoryHost String) host =
      .ok (host.text path) host := rfl
  rw [apply_eq, Task.bind_of_ok hread, h]
  rfl

/-- In memory an edit succeeds exactly if it fits its file, and then replaces its range there. -/
theorem apply_eq_ok_iff : edit.apply path host = .ok () left ↔ edit.Fits (host.text path) ∧
    ∃ revised, edit.Replaces (host.text path) revised ∧ left = host.put path revised := by
  constructor
  · intro happly
    obtain hfits | ⟨error, hmisfits⟩ := fits_or_misfits edit path (host.text path)
    · obtain ⟨revised, hreplaces, hrevise⟩ := hfits.revise path
      rw [apply_of_revise_ok hrevise] at happly
      cases happly
      exact ⟨hfits, revised, hreplaces, rfl⟩
    · rw [apply_of_revise_error hmisfits.revise] at happly
      cases happly
  · rintro ⟨hfits, revised, hreplaces, rfl⟩
    obtain ⟨other, hother, hrevise⟩ := hfits.revise path
    rw [hreplaces.unique hother]
    exact apply_of_revise_ok hrevise

/-- In memory an edit fails exactly with the first fault of its range, and changes nothing. -/
theorem apply_eq_error_iff :
    edit.apply path host = .error error left ↔
      edit.Misfits path (host.text path) error ∧ left = host := by
  constructor
  · intro happly
    obtain hfits | ⟨other, hmisfits⟩ := fits_or_misfits edit path (host.text path)
    · obtain ⟨revised, -, hrevise⟩ := hfits.revise path
      rw [apply_of_revise_ok hrevise] at happly
      cases happly
    · rw [apply_of_revise_error hmisfits.revise] at happly
      cases happly
      exact ⟨hmisfits, rfl⟩
  · rintro ⟨hmisfits, rfl⟩
    exact apply_of_revise_error hmisfits.revise

end Edit

end Scaffold
