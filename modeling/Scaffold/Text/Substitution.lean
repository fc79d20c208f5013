/-!
# Substitution of a token

Every occurrence of a token in a text is replaced, searching from the left and going on after each
occurrence found. The empty token occurs before every character and at the end.
-/

namespace Scaffold.Text

/-- Replace a nonempty token. `skip` counts the characters that belong to the occurrence found
last. -/
def substituteFrom (token value : List Char) : Nat → List Char → List Char
  | _, [] => []
  | skip + 1, _ :: rest => substituteFrom token value skip rest
  | 0, char :: rest =>
    if token.isPrefixOf (char :: rest) then
      value ++ substituteFrom token value (token.length - 1) rest
    else char :: substituteFrom token value 0 rest

/-- The characters with `value` for every occurrence of `token`. -/
def substitute (token value chars : List Char) : List Char :=
  match token with
  | [] => value ++ chars.flatMap (fun char => char :: value)
  | _ :: _ => substituteFrom token value 0 chars

/-- The text with `value` for every occurrence of `token`. -/
def replaceAll (token value text : String) : String :=
  String.ofList (substitute token.toList value.toList text.toList)

end Scaffold.Text
