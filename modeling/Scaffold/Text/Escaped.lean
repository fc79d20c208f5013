import Scaffold.Text.Letters

/-!
# Escaped texts

Texts between double quotes, with escapes for quotes, backslashes and what cannot be shown.
-/

namespace Scaffold.Text

/-- Characters that are not shown: controls, formats, spaces other than the common one, marks that
join the character before them, and private ones. -/
def hiddenRuns : List CodeRun :=
  [⟨0x0, 0x1F, 1⟩, ⟨0x7F, 0xA0, 1⟩, ⟨0xAD, 0xAD, 1⟩, ⟨0x300, 0x36F, 1⟩, ⟨0x483, 0x489, 1⟩,
   ⟨0x591, 0x5BD, 1⟩, ⟨0x600, 0x605, 1⟩, ⟨0x610, 0x61A, 1⟩, ⟨0x61C, 0x61C, 1⟩,
   ⟨0x64B, 0x65F, 1⟩, ⟨0x6D6, 0x6DD, 1⟩, ⟨0x70F, 0x70F, 1⟩, ⟨0x93C, 0x93C, 1⟩,
   ⟨0x94D, 0x94D, 1⟩, ⟨0x1680, 0x1680, 1⟩, ⟨0x180B, 0x180F, 1⟩, ⟨0x1AB0, 0x1ACE, 1⟩,
   ⟨0x1DC0, 0x1DFF, 1⟩, ⟨0x2000, 0x200F, 1⟩, ⟨0x2028, 0x202F, 1⟩, ⟨0x205F, 0x206F, 1⟩,
   ⟨0x20D0, 0x20F0, 1⟩, ⟨0x3000, 0x3000, 1⟩, ⟨0x302A, 0x302F, 1⟩, ⟨0xE000, 0xF8FF, 1⟩,
   ⟨0xFE00, 0xFE0F, 1⟩, ⟨0xFE20, 0xFE2F, 1⟩, ⟨0xFEFF, 0xFEFF, 1⟩, ⟨0xFFF0, 0xFFFB, 1⟩,
   ⟨0xFFFE, 0xFFFF, 1⟩, ⟨0xE0000, 0x10FFFF, 1⟩]

/-- The letter that stands behind a backslash for a character. -/
def escapeLetter? (char : Char) : Option Char :=
  [('\x00', '0'), ('\t', 't'), ('\r', 'r'), ('\n', 'n'), ('\x22', '\x22'), ('\\', '\\')].lookup char

/-- A character, escaped if need be. -/
def escapeChar (char : Char) : List Char :=
  match escapeLetter? char with
  | some letter => ['\\', letter]
  | none =>
    if CodeRun.anyMeets hiddenRuns char then
      ['\\', 'u', '\x7b'] ++ Nat.toDigits 16 char.toNat ++ ['\x7d']
    else [char]

/-- The text between double quotes. -/
def escaped (text : String) : String :=
  "\"" ++ String.ofList (text.toList.flatMap escapeChar) ++ "\""

end Scaffold.Text
