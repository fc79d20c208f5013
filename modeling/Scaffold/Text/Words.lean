import Scaffold.Text.Case

/-!
# Words of a name

A name is split into lowercase words, at characters that are neither letters nor digits and before
an uppercase letter that follows a lowercase letter or a digit.
-/

namespace Scaffold.Text

/-- A word as a list, unless it is empty. -/
def closedWord (word : List Char) : List (List Char) := if word.isEmpty then [] else [word]

/-- The words of characters; `word` is the word begun, and `afterLower` tells whether the character
before was a lowercase letter or a digit. -/
def wordsFrom (word : List Char) (afterLower : Bool) : List Char → List (List Char)
  | [] => closedWord word
  | char :: rest =>
    if !isAlphanumeric char then closedWord word ++ wordsFrom [] false rest
    else
      let isLow := isLowercase char || isNumeric char
      if isUppercase char && afterLower then
        closedWord word ++ wordsFrom (lowercase char) isLow rest
      else wordsFrom (word ++ lowercase char) isLow rest

/-- The words of a text. -/
def words (text : String) : List (List Char) := wordsFrom [] false text.toList

/-- The words with underscores between them. -/
def snakeCase (text : String) : String := String.ofList (['_'].intercalate (words text))

/-- A word with its first character in uppercase. -/
def capitalize : List Char → List Char
  | [] => []
  | char :: rest => uppercase char ++ rest

/-- The words, capitalized and put together. -/
def pascalCase (text : String) : String := String.ofList ((words text).flatMap capitalize)

end Scaffold.Text
