/-!
# Tokens of YAML
-/

namespace Scaffold.Yaml

/-- How a scalar is written. -/
inductive ScalarStyle where
  | plain
  | singleQuoted
  | doubleQuoted
  /-- A block that keeps its line ends. -/
  | literal
  /-- A block whose lines are joined. -/
  | folded
  deriving Repr, DecidableEq

/-- A piece of a YAML text. -/
inductive Token where
  /-- The directive that names the version. -/
  | versionDirective
  /-- The directive that gives a handle of tags its meaning. -/
  | tagDirective (handle beginning : String)
  | documentStart
  | documentEnd
  | blockSequenceStart
  | blockMappingStart
  /-- The end of an indented collection. -/
  | blockEnd
  | flowSequenceStart
  | flowSequenceEnd
  | flowMappingStart
  | flowMappingEnd
  /-- The hyphen before an item. -/
  | blockEntry
  /-- The comma between items. -/
  | flowEntry
  /-- The start of a key. -/
  | key
  /-- The colon before a value. -/
  | value
  /-- A reference to an anchored node. -/
  | alias (name : String)
  | anchor (name : String)
  | tag (handle suffix : String)
  | scalar (style : ScalarStyle) (text : String)
  deriving Repr, DecidableEq

end Scaffold.Yaml
