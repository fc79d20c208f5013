import Scaffold.Text.Substitution

/-!
# Templates

A template is a text with tokens, and replacements give each token its value. They are made one
after the other, so that a token in an earlier value is replaced too.
-/

namespace Scaffold

/-- Values of tokens, in the order in which they are put in. -/
structure Replacements where
  /-- Tokens with their values, each token once. -/
  pairs : List (String × String)
  deriving Repr, DecidableEq, Inhabited

namespace Replacements

/-- No replacements. -/
def empty : Replacements := ⟨[]⟩

/-- Set the value of a token among pairs; a token already there keeps its place. -/
def insertIn (token value : String) : List (String × String) → List (String × String)
  | [] => [(token, value)]
  | (key, old) :: rest =>
    if key == token then (key, value) :: rest else (key, old) :: insertIn token value rest

/-- Set the value of a token. -/
def insert (replacements : Replacements) (token value : String) : Replacements :=
  ⟨insertIn token value replacements.pairs⟩

/-- The replacements of a list of pairs; of equal tokens the last value counts. -/
def ofList (pairs : List (String × String)) : Replacements :=
  pairs.foldl (fun replacements pair => replacements.insert pair.1 pair.2) empty

/-- The value of a token. -/
def get? (replacements : Replacements) (token : String) : Option String :=
  replacements.pairs.lookup token

/-- The template with every token replaced. -/
def render (replacements : Replacements) (template : String) : String :=
  replacements.pairs.foldl (fun text pair => Text.replaceAll pair.1 pair.2 text) template

end Replacements

end Scaffold
