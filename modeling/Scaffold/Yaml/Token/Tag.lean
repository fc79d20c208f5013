import Scaffold.Text.Utf8
import Scaffold.Yaml.Token
import Scaffold.Yaml.Token.Quoted

/-!
# Anchors, tags and directives

The properties that stand in front of a node, and the directives in front of a document.
-/

namespace Scaffold.Yaml

/-- Read the name of an anchor or of a reference to one, behind its indicator. -/
def scanName (spots : List Spot) : Option (String × List Spot) :=
  let name := takeWhile isWordChar spots
  let rest := skipWhile isWordChar spots
  let next := peek rest
  if name.isEmpty then none
  else if isWordStop next || ['?', ':', ',', ']', '\x7d', '%', '@', '\x60'].contains next then
    some (String.ofList name, rest)
  else none

/-- Whether a character can be part of the resource that a tag names. -/
def isTagChar (verbatim : Bool) (char : Char) : Bool :=
  let marks := ";/?:@&=+$.%!~*\x27()".toList
  isWordChar char || marks.contains char || (verbatim && [',', '[', ']'].contains char)

/-- The bytes that characters stand for, two digits behind a percent sign being one byte; none if
the digits are missing. -/
def tagBytes? : List Char → Option (List UInt8)
  | [] => some []
  | '%' :: high :: low :: rest =>
    match hexValue? high, hexValue? low with
    | some high, some low => (tagBytes? rest).map ((high * 16 + low).toUInt8 :: ·)
    | _, _ => none
  | char :: rest =>
    if char == '%' then none else (tagBytes? rest).map (Text.encode [char] ++ ·)

/-- Read the resource that a tag names. -/
def scanResource (verbatim : Bool) (spots : List Spot) : Option (String × List Spot) := do
  let chars := takeWhile (isTagChar verbatim) spots
  let bytes ← tagBytes? chars
  let text ← Text.decode? bytes
  return (text, skipWhile (isTagChar verbatim) spots)

/-- Read a resource of at least one character. -/
def scanSomeResource (verbatim : Bool) (spots : List Spot) : Option (String × List Spot) := do
  let (text, rest) ← scanResource verbatim spots
  if text.isEmpty then none else some (text, rest)

/-- Read a tag within angle brackets, behind the first of them. -/
def scanVerbatimTag (spots : List Spot) : Option (Token × List Spot) := do
  let (text, rest) ← scanSomeResource true spots
  if peek rest == '>' then some (.tag "" text, rest.tail) else none

/-- Read a tag with a handle, behind its first exclamation mark. The handle is closed by another
one, and without that is part of the resource. -/
def scanHandledTag (spots : List Spot) : Option (Token × List Spot) := do
  let word := takeWhile isWordChar spots
  let behind := skipWhile isWordChar spots
  if peek behind == '!' then
    let (suffix, rest) ← scanSomeResource false behind.tail
    return (.tag ("!" ++ String.ofList word ++ "!") suffix, rest)
  else
    let (suffix, rest) ← scanResource false spots
    return (if suffix.isEmpty then .tag "" "!" else .tag "!" suffix, rest)

/-- Read a tag, behind its first exclamation mark. -/
def scanTag (inFlow : Bool) (spots : List Spot) : Option (Token × List Spot) := do
  let (tag, rest) ←
    if peek spots == '<' then scanVerbatimTag spots.tail else scanHandledTag spots
  let next := peek rest
  if isWordStop next || (inFlow && next == ',') then some (tag, rest) else none

/-- Read a number of a version, at most nine digits; none if there is no digit. -/
def scanVersionNumber (spots : List Spot) : Option (Nat × List Spot) :=
  let digits := takeWhile Char.isDigit spots
  if digits.isEmpty || 9 < digits.length then none
  else
    some (digits.foldl (fun value digit => value * 10 + (digit.toNat - '0'.toNat)) 0,
      skipWhile Char.isDigit spots)

/-- Read the directive that names the version, behind its name. Versions 1.1 and 1.2 are known. -/
def scanVersionDirective (spots : List Spot) : Option (Token × List Spot) := do
  let (major, rest) ← scanVersionNumber (skipWhile isSpacing spots)
  if peek rest != '.' then none
  let (minor, rest) ← scanVersionNumber rest.tail
  if major == 1 && (minor == 1 || minor == 2) then some (.versionDirective, rest) else none

/-- Read a handle of tags. -/
def scanHandle (spots : List Spot) : Option (String × List Spot) := do
  if peek spots != '!' then none
  let word := takeWhile isWordChar spots.tail
  let behind := skipWhile isWordChar spots.tail
  if peek behind == '!' then some ("!" ++ String.ofList word ++ "!", behind.tail)
  else if word.isEmpty then some ("!", behind)
  else none

/-- Read the directive that gives a handle its meaning, behind its name. -/
def scanTagDirective (spots : List Spot) : Option (Token × List Spot) := do
  let (handle, rest) ← scanHandle (skipWhile isSpacing spots)
  if !isSpacing (peek rest) then none
  let (beginning, rest) ← scanSomeResource true (skipWhile isSpacing rest)
  if isWordStop (peek rest) then some (.tagDirective handle beginning, rest) else none

/-- Read a directive, behind its percent sign, with its line. -/
def scanDirective (spots : List Spot) : Option (Token × List Spot) := do
  let name := String.ofList (takeWhile isWordChar spots)
  let behind := skipWhile isWordChar spots
  if !isWordStop (peek behind) then none
  let (token, rest) ←
    if name == "YAML" then scanVersionDirective behind
    else if name == "TAG" then scanTagDirective behind
    else none
  return (token, ← skipLineRest? rest)

end Scaffold.Yaml
