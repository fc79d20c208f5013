/-!
# Lines

Two ways to cut a text into lines. Both keep each terminator with its line, so the lines put
together are the text.
-/

namespace Scaffold.Text

/-- The lines of a list of characters; each ends after a line feed, a carriage return with a line
feed, or a lone carriage return. `line` holds the characters of the open line in reverse. -/
def terminatedLinesFrom (line : List Char) : List Char → List (List Char)
  | [] => if line.isEmpty then [] else [line.reverse]
  | '\r' :: '\n' :: rest => ('\n' :: '\r' :: line).reverse :: terminatedLinesFrom [] rest
  | char :: rest =>
    if char == '\n' || char == '\r' then (char :: line).reverse :: terminatedLinesFrom [] rest
    else terminatedLinesFrom (char :: line) rest

/-- The lines of a text; each ends after a line feed, a carriage return with a line feed, or a
lone carriage return. -/
def terminatedLines (text : String) : List String :=
  (terminatedLinesFrom [] text.toList).map String.ofList

/-- The lines of a list of characters; each ends after a line feed. `line` holds the characters of
the open line in reverse. -/
def feedLinesFrom (line : List Char) : List Char → List (List Char)
  | [] => if line.isEmpty then [] else [line.reverse]
  | char :: rest =>
    if char == '\n' then (char :: line).reverse :: feedLinesFrom [] rest
    else feedLinesFrom (char :: line) rest

/-- The lines of a list of characters; each ends after a line feed. -/
def feedLines (chars : List Char) : List (List Char) := feedLinesFrom [] chars

/-- Whether a line has a terminator. -/
def isTerminated (line : String) : Bool :=
  match line.toList.getLast? with
  | some char => char == '\n' || char == '\r'
  | none => false

/-- The line without the line feeds at its end. -/
def withoutFeed (line : String) : String :=
  String.ofList (line.toList.reverse.dropWhile (· == '\n')).reverse

end Scaffold.Text
