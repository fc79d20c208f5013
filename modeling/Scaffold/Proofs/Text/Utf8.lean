import Mathlib.Tactic.SplitIfs
import Scaffold.Text.Utf8

/-!
# The order of bytes

Texts are ordered by their bytes as they are by their characters: of two code points, the greater
one has the greater byte where their bytes differ for the first time.
-/

namespace Scaffold.Text

/-- Bytes are ordered by the first of them, and where it is the same by the others. -/
theorem byte_cons_lt {low high : Nat} {front back : List UInt8} (bound : high < 256)
    (first : low ≤ high) (others : low = high → front < back) :
    low.toUInt8 :: front < high.toUInt8 :: back := by
  rw [List.cons_lt_cons_iff]
  obtain hless | rfl := Nat.lt_or_eq_of_le first
  · refine .inl (UInt8.lt_iff_toNat_lt.mpr ?_)
    change low % 256 < high % 256
    omega
  · exact .inr ⟨rfl, others rfl⟩

/-- The bytes of a greater code point are greater, whatever follows. -/
theorem encodeCode_append_lt {low high : Nat} (h : low < high) (bound : high < 0x110000)
    (front back : List UInt8) : encodeCode low ++ front < encodeCode high ++ back := by
  unfold encodeCode
  split_ifs
  all_goals try omega
  -- Of different numbers of bytes, the first ones differ.
  all_goals
    refine byte_cons_lt (by omega) (by omega) fun hfirst => ?_
    try omega
  · exact byte_cons_lt (by omega) (by omega) fun hsecond => by omega
  · refine byte_cons_lt (by omega) (by omega) fun hsecond => ?_
    exact byte_cons_lt (by omega) (by omega) fun hthird => by omega
  · refine byte_cons_lt (by omega) (by omega) fun hsecond => ?_
    refine byte_cons_lt (by omega) (by omega) fun hthird => ?_
    exact byte_cons_lt (by omega) (by omega) fun hfourth => by omega

theorem encodeCode_ne_nil (code : Nat) : encodeCode code ≠ [] := by
  unfold encodeCode
  split_ifs <;> exact List.cons_ne_nil _ _

theorem encode_cons (char : Char) (rest : List Char) :
    encode (char :: rest) = encodeCode char.toNat ++ encode rest := List.flatMap_cons

/-- No character has a code beyond the last one. -/
theorem toNat_lt (char : Char) : char.toNat < 0x110000 := by
  obtain hlow | ⟨-, hhigh⟩ := char.valid
  · exact Nat.lt_trans hlow (by decide)
  · exact hhigh

/-- The order of characters is that of their bytes. -/
theorem encode_lt {left right : List Char} (h : left < right) : encode left < encode right := by
  induction left generalizing right with
  | nil =>
    cases right with
    | nil => exact absurd h (List.not_lt_nil _)
    | cons other others =>
      obtain ⟨byte, bytes, hbytes⟩ := List.exists_cons_of_ne_nil (encodeCode_ne_nil other.toNat)
      rw [encode_cons, hbytes]
      exact List.nil_lt_cons _ _
  | cons first rest ih =>
    cases right with
    | nil => exact absurd h (List.not_lt_nil _)
    | cons other others =>
      rw [encode_cons, encode_cons]
      obtain hless | ⟨rfl, hrest⟩ := List.cons_lt_cons_iff.mp h
      · exact encodeCode_append_lt hless (toNat_lt other) _ _
      · exact List.append_left_lt (ih hrest)

end Scaffold.Text
