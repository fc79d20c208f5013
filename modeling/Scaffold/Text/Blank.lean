import Scaffold.Text.Letters

/-!
# Blank characters

The characters with the property White_Space, and the trimming of texts by them.
-/

namespace Scaffold.Text

/-- The characters with the property White_Space. -/
def blankRuns : List CodeRun :=
  [⟨0x9, 0xD, 1⟩, ⟨0x20, 0x20, 1⟩, ⟨0x85, 0x85, 1⟩, ⟨0xA0, 0xA0, 1⟩, ⟨0x1680, 0x1680, 1⟩,
   ⟨0x2000, 0x200A, 1⟩, ⟨0x2028, 0x2029, 1⟩, ⟨0x202F, 0x202F, 1⟩, ⟨0x205F, 0x205F, 1⟩,
   ⟨0x3000, 0x3000, 1⟩]

/-- Whether the character is blank. -/
def isBlank (char : Char) : Bool := CodeRun.anyMeets blankRuns char

/-- The characters without the blank ones at their start. -/
def dropBlank (chars : List Char) : List Char := chars.dropWhile isBlank

/-- The characters without the blank ones at their start and end. -/
def trimBlank (chars : List Char) : List Char := (dropBlank (dropBlank chars).reverse).reverse

/-- The text without blank characters at its start and end. -/
def trim (text : String) : String := String.ofList (trimBlank text.toList)

/-- Whether the text has no character other than blank ones. -/
def isAllBlank (text : String) : Bool := text.toList.all isBlank

end Scaffold.Text
