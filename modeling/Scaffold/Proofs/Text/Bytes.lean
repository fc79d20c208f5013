import Scaffold.Text.Bytes

/-!
# Cuts of a text

A position can be cut exactly if the text falls into two parts of which the first has as many
bytes as the position counts. Two cuts of one text divide it into three parts, and replacing the
bytes between them replaces the middle part.
-/

namespace Scaffold.Text

/-- Characters put together are as long as both. -/
theorem byteLength_append (left right : List Char) :
    byteLength (left ++ right) = byteLength left + byteLength right := by
  induction left with
  | nil => rw [List.nil_append, byteLength, Nat.zero_add]
  | cons char rest ih => rw [List.cons_append, byteLength, byteLength, ih, Nat.add_assoc]

/-- Without bytes there are no characters. -/
theorem eq_nil_of_byteLength {chars : List Char} (h : byteLength chars = 0) : chars = [] := by
  cases chars with
  | nil => rfl
  | cons char rest =>
    have hpos := Char.utf8Size_pos char
    rw [byteLength] at h
    omega

theorem cutAt?_zero (chars : List Char) : cutAt? chars 0 = some ([], chars) := by
  cases chars <;> rfl

/-- A text can be cut between its parts. -/
theorem cutAt?_append (before after : List Char) :
    cutAt? (before ++ after) (byteLength before) = some (before, after) := by
  induction before with
  | nil => exact cutAt?_zero after
  | cons char rest ih =>
    have hpos := Char.utf8Size_pos char
    obtain ⟨position, hposition⟩ : ∃ position, byteLength (char :: rest) = position + 1 :=
      Nat.exists_eq_add_one.mpr (by rw [byteLength]; omega)
    have hrest : position + 1 - char.utf8Size = byteLength rest := by
      rw [← hposition, byteLength]
      omega
    have hle : char.utf8Size ≤ position + 1 := by
      rw [← hposition, byteLength]
      omega
    rw [hposition, List.cons_append, cutAt?, if_pos hle, hrest, ih]

/-- A cut divides a text into two parts. -/
theorem eq_append_of_cutAt? {chars before after : List Char} {position : Nat}
    (h : cutAt? chars position = some (before, after)) :
    chars = before ++ after ∧ byteLength before = position := by
  induction chars generalizing position before with
  | nil =>
    cases position with
    | zero =>
      rw [cutAt?_zero] at h
      cases h
      exact ⟨rfl, rfl⟩
    | succ position => cases h
  | cons char rest ih =>
    cases position with
    | zero =>
      rw [cutAt?_zero] at h
      cases h
      exact ⟨rfl, rfl⟩
    | succ position =>
      rw [cutAt?] at h
      by_cases hle : char.utf8Size ≤ position + 1
      · rw [if_pos hle] at h
        cases hc : cutAt? rest (position + 1 - char.utf8Size) with
        | none => rw [hc] at h; cases h
        | some parts =>
          obtain ⟨first, second⟩ := parts
          rw [hc] at h
          cases h
          obtain ⟨hrest, hlength⟩ := ih hc
          refine ⟨?_, ?_⟩
          · rw [hrest, List.cons_append]
          · rw [byteLength, hlength]
            omega
      · rw [if_neg hle] at h
        cases h

/-- The positions at which a text can be cut. -/
def IsBoundary (chars : List Char) (position : Nat) : Prop := (cutAt? chars position).isSome = true

instance (chars : List Char) (position : Nat) : Decidable (IsBoundary chars position) :=
  inferInstanceAs (Decidable (_ = true))

/-- A position is a boundary if the characters before it are as long as it says. -/
theorem isBoundary_iff {chars : List Char} {position : Nat} :
    IsBoundary chars position ↔
      ∃ before after, chars = before ++ after ∧ byteLength before = position := by
  constructor
  · intro h
    obtain ⟨⟨before, after⟩, hc⟩ := Option.isSome_iff_exists.mp h
    exact ⟨before, after, eq_append_of_cutAt? hc⟩
  · rintro ⟨before, after, rfl, rfl⟩
    rw [IsBoundary, cutAt?_append]
    rfl

/-- Of two beginnings of a text, the one with fewer bytes is a beginning of the other. -/
theorem prefix_of_byteLength_le {chars short long : List Char} (hshort : short <+: chars)
    (hlong : long <+: chars) (hle : byteLength short ≤ byteLength long) : short <+: long := by
  obtain hp | ⟨extra, hextra⟩ := List.prefix_or_prefix_of_prefix hshort hlong
  · exact hp
  · have hlength := byteLength_append long extra
    rw [hextra] at hlength
    have hnil : extra = [] := eq_nil_of_byteLength (by omega)
    rw [hnil, List.append_nil] at hextra
    exact ⟨[], (List.append_nil short).trans hextra.symm⟩

/-- Two cuts, the second not before the first, divide a text into three parts. -/
theorem exists_parts {chars : List Char} {start stop : Nat} (hle : start ≤ stop)
    (hstart : IsBoundary chars start) (hstop : IsBoundary chars stop) :
    ∃ before middle after, chars = before ++ middle ++ after ∧ byteLength before = start ∧
      byteLength before + byteLength middle = stop := by
  obtain ⟨before, others, hchars, hbefore⟩ := isBoundary_iff.mp hstart
  obtain ⟨most, after, hchars', hmost⟩ := isBoundary_iff.mp hstop
  have hleft : before <+: chars := ⟨others, hchars.symm⟩
  have hright : most <+: chars := ⟨after, hchars'.symm⟩
  obtain ⟨middle, hmiddle⟩ := prefix_of_byteLength_le hleft hright (by omega)
  refine ⟨before, middle, after, ?_, hbefore, ?_⟩
  · rw [hmiddle, hchars']
  · rw [← byteLength_append, hmiddle, hmost]

/-- Replacing the bytes between two cuts replaces the part between them. -/
theorem splice?_parts {content replacement : String} {before middle after : List Char}
    (h : content.toList = before ++ middle ++ after) :
    splice? content (byteLength before) (byteLength before + byteLength middle) replacement =
      some (String.ofList (before ++ replacement.toList ++ after)) := by
  have hle : byteLength before ≤ byteLength before + byteLength middle := Nat.le_add_right _ _
  have hstart : cutAt? content.toList (byteLength before) = some (before, middle ++ after) := by
    rw [h, List.append_assoc, cutAt?_append]
  have hstop : cutAt? content.toList (byteLength before + byteLength middle) =
      some (before ++ middle, after) := by
    rw [h, ← byteLength_append, cutAt?_append]
  rw [splice?, if_pos hle, hstart, hstop]

end Scaffold.Text
