/-!
# Positions in bytes

Positions in a text count the bytes of its UTF-8 form. A text can be cut only between two
characters, so a position inside a character, or past the end, has no cut.
-/

namespace Scaffold.Text

/-- The number of bytes of a list of characters. -/
def byteLength : List Char → Nat
  | [] => 0
  | char :: rest => char.utf8Size + byteLength rest

/-- The two parts of a list of characters around a byte position, if the position lies between
two characters or at an end. -/
def cutAt? : List Char → Nat → Option (List Char × List Char)
  | chars, 0 => some ([], chars)
  | [], _ + 1 => none
  | char :: chars, position + 1 =>
    if char.utf8Size ≤ position + 1 then
      match cutAt? chars (position + 1 - char.utf8Size) with
      | some (before, after) => some (char :: before, after)
      | none => none
    else none

/-- The text with its bytes from `start` to `stop` replaced, if both positions lie between
characters and in this order. -/
def splice? (content : String) (start stop : Nat) (replacement : String) : Option String :=
  if start ≤ stop then
    match cutAt? content.toList start, cutAt? content.toList stop with
    | some (before, _), some (_, after) =>
      some (String.ofList (before ++ replacement.toList ++ after))
    | _, _ => none
  else none

end Scaffold.Text
