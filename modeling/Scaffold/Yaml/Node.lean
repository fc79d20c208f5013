import Scaffold.Yaml.Tokens

/-!
# Nodes

A YAML text holds one document, a tree of scalars, sequences and mappings. A node may carry an
anchor, and an alias stands for the node with its anchor. Anchors are numbered: a name takes the
number of different names before it, and a number means the node with it that starts last.
-/

namespace Scaffold.Yaml

/-- A node of a document. -/
inductive Node where
  | scalar (tag? : Option String) (style : ScalarStyle) (text : String)
  | sequence (tag? : Option String) (items : List Node)
  | mapping (tag? : Option String) (entries : List (Node × Node))
  /-- Stands for the node with the anchor. -/
  | alias (anchor : Nat)
  deriving Repr, Inhabited

/-- The node that stands where nothing is written. -/
def Node.blank : Node := .scalar none .plain ""

/-- A node with an anchor. -/
structure AnchoredNode where
  /-- The number of the anchor. -/
  anchor : Nat
  /-- How many anchored nodes start before it. -/
  start : Nat
  /-- The node. -/
  node : Node
  deriving Repr

/-- A document. -/
structure Document where
  /-- The outermost node. -/
  root : Node
  /-- The nodes with anchors. -/
  anchored : List AnchoredNode
  /-- How many scalars, aliases and ends of collections it has. -/
  size : Nat
  deriving Repr

/-- The node that the number of an anchor means. -/
def Document.target? (document : Document) (anchor : Nat) : Option Node :=
  let candidates := document.anchored.filter (·.anchor == anchor)
  let latest := candidates.foldl (fun latest candidate => max latest candidate.start) 0
  (candidates.find? (·.start == latest)).map (·.node)

/-- The state in which nodes are made of tokens. -/
structure NodeState where
  /-- The tokens left. -/
  tokens : List Token
  /-- The names of anchors with their numbers. -/
  names : List (String × Nat)
  /-- The nodes with anchors that are complete. -/
  anchored : List AnchoredNode
  /-- How many nodes with anchors have started. -/
  started : Nat
  /-- How many scalars, aliases and ends of collections were met. -/
  size : Nat
  /-- The handles of tags with their meanings. -/
  handles : List (String × String)

/-- Making something of tokens; nothing comes of tokens that do not fit. -/
abbrev NodeReader := StateT NodeState Option

namespace NodeReader

/-- The next token. -/
def peek : NodeReader (Option Token) := do return (← get).tokens.head?

/-- Whether the next token is one of some. -/
def sees (tokens : List Token) : NodeReader Bool := do return (← peek).any tokens.contains

/-- Go over the next token. -/
def skip : NodeReader Unit := modify fun state => { state with tokens := state.tokens.tail }

/-- Count events. -/
def count (events : Nat) : NodeReader Unit :=
  modify fun state => { state with size := state.size + events }

/-- The node where nothing is written. -/
def blank : NodeReader Node := do
  count 1
  return .blank

/-- The meaning of a tag; handles have to be known. -/
def resolveTag (handle suffix : String) : NodeReader String := do
  if handle.isEmpty then return suffix
  else
    match (← get).handles.lookup handle with
    | some beginning => return beginning ++ suffix
    | none => failure

/-- Read an anchor, if there is one. -/
def anchor? : NodeReader (Option String) := do
  match ← peek with
  | some (.anchor name) =>
    skip
    return some name
  | _ => return none

/-- Read a tag, if there is one. -/
def tag? : NodeReader (Option String) := do
  match ← peek with
  | some (.tag handle suffix) =>
    skip
    return some (← resolveTag handle suffix)
  | _ => return none

/-- Read the anchor and the tag of a node, in any order. -/
def properties : NodeReader (Option String × Option String) := do
  match ← anchor? with
  | some name => return (some name, ← tag?)
  | none =>
    let tag ← tag?
    if tag.isSome then return (← anchor?, tag) else return (none, none)

/-- Number an anchor, and what comes of it. -/
def openAnchor (name? : Option String) : NodeReader (Option (Nat × Nat)) := do
  match name? with
  | none => return none
  | some name =>
    let state ← get
    let number := state.names.length
    let others := state.names.filter (·.1 != name)
    let names := (name, number) :: others
    set { state with names, started := state.started + 1 }
    return some (number, state.started)

/-- Note the node of an anchor. -/
def closeAnchor (opened? : Option (Nat × Nat)) (node : Node) : NodeReader Unit := do
  match opened? with
  | none => return ()
  | some (anchor, start) =>
    modify fun state => { state with anchored := ⟨anchor, start, node⟩ :: state.anchored }

/-- The tag of a scalar; a lone exclamation mark says nothing. -/
def scalarTag (tag? : Option String) : Option String := if tag? == some "!" then none else tag?

mutual

/-- Read a node. Indented collections count if `inBlock`, and items without indentation of their own
if `flush`. All readers go at most `depth` steps deep. -/
def node (depth : Nat) (inBlock flush : Bool) : NodeReader Node :=
  match depth with
  | 0 => failure
  | depth + 1 => do
    match ← peek with
    | some (.alias name) =>
      skip
      count 1
      match (← get).names.lookup name with
      | some anchor => return .alias anchor
      | none => failure
    | _ =>
      let (anchor?, tag?) ← properties
      let opened ← openAnchor anchor?
      let node ← content depth inBlock flush (anchor?.isSome || tag?.isSome) tag?
      closeAnchor opened node
      return node

/-- Read what stands behind the anchor and the tag of a node. -/
def content (depth : Nat) (inBlock flush marked : Bool) (tag? : Option String) :
    NodeReader Node :=
  match depth with
  | 0 => failure
  | depth + 1 => do
    let sequence (items : NodeReader (List Node)) : NodeReader Node := do
      count 2
      return .sequence tag? (← items)
    let mapping (entries : NodeReader (List (Node × Node))) : NodeReader Node := do
      count 2
      return .mapping tag? (← entries)
    match ← peek, inBlock, flush with
    | some .blockEntry, _, true => sequence (flushItems depth)
    | some (.scalar style text), _, _ =>
      skip
      count 1
      return .scalar (scalarTag tag?) style text
    | some .flowSequenceStart, _, _ =>
      skip
      sequence (flowItems depth true)
    | some .flowMappingStart, _, _ =>
      skip
      mapping (flowEntries depth true)
    | some .blockSequenceStart, true, _ =>
      skip
      sequence (blockItems depth)
    | some .blockMappingStart, true, _ =>
      skip
      mapping (blockEntries depth)
    | _, _, _ =>
      if marked then
        count 1
        return .scalar tag? .plain ""
      else failure

/-- Read a node, unless one of some tokens is next. -/
def nodeUnless (depth : Nat) (inBlock flush : Bool) (stops : List Token) : NodeReader Node :=
  match depth with
  | 0 => failure
  | depth + 1 => do
    if ← sees stops then blank else node depth inBlock flush

/-- Read a value behind its colon, if there is one. -/
def valueUnless (depth : Nat) (inBlock flush : Bool) (stops : List Token) : NodeReader Node :=
  match depth with
  | 0 => failure
  | depth + 1 => do
    if ← sees [.value] then
      skip
      nodeUnless depth inBlock flush stops
    else blank

/-- Read the items of an indented sequence. -/
def blockItems (depth : Nat) : NodeReader (List Node) :=
  match depth with
  | 0 => failure
  | depth + 1 => do
    match ← peek with
    | some .blockEntry =>
      skip
      let item ← nodeUnless depth true false [.blockEntry, .blockEnd]
      return item :: (← blockItems depth)
    | some .blockEnd =>
      skip
      return []
    | _ => failure

/-- Read the items of a sequence without indentation of its own. -/
def flushItems (depth : Nat) : NodeReader (List Node) :=
  match depth with
  | 0 => failure
  | depth + 1 => do
    match ← peek with
    | some .blockEntry =>
      skip
      let item ← nodeUnless depth true false [.blockEntry, .key, .value, .blockEnd]
      return item :: (← flushItems depth)
    | _ => return []

/-- Read the entries of an indented mapping. -/
def blockEntries (depth : Nat) : NodeReader (List (Node × Node)) :=
  match depth with
  | 0 => failure
  | depth + 1 => do
    match ← peek with
    | some .key =>
      skip
      let key ← nodeUnless depth true true [.key, .value, .blockEnd]
      let value ← valueUnless depth true true [.key, .value, .blockEnd]
      return (key, value) :: (← blockEntries depth)
    | some .blockEnd =>
      skip
      return []
    | _ => failure

/-- Read the items of a sequence in brackets; all but the first follow a comma. -/
def flowItems (depth : Nat) (isFirst : Bool) : NodeReader (List Node) :=
  match depth with
  | 0 => failure
  | depth + 1 => do
    if ← sees [.flowSequenceEnd] then
      skip
      return []
    unless isFirst do
      if ← sees [.flowEntry] then skip else failure
    match ← peek with
    | some .key =>
      skip
      count 2
      let key ← flowPairKey depth
      let value ← valueUnless depth false false [.flowEntry, .flowSequenceEnd]
      return .mapping none [(key, value)] :: (← flowItems depth false)
    | some .flowSequenceEnd =>
      skip
      return []
    | _ =>
      let item ← node depth false false
      return item :: (← flowItems depth false)

/-- Read the key of a lone pair in a sequence; a key that is not written takes the token that
stands in its place with it. -/
def flowPairKey (depth : Nat) : NodeReader Node :=
  match depth with
  | 0 => failure
  | depth + 1 => do
    if ← sees [.value, .flowEntry, .flowSequenceEnd] then
      skip
      blank
    else node depth false false

/-- Read the entries of a mapping in braces; all but the first follow a comma. -/
def flowEntries (depth : Nat) (isFirst : Bool) : NodeReader (List (Node × Node)) :=
  match depth with
  | 0 => failure
  | depth + 1 => do
    if ← sees [.flowMappingEnd] then
      skip
      return []
    unless isFirst do
      if ← sees [.flowEntry] then skip else failure
    match ← peek with
    | some .key =>
      skip
      let key ← nodeUnless depth false false [.value, .flowEntry, .flowMappingEnd]
      let value ← valueUnless depth false false [.flowEntry, .flowMappingEnd]
      return (key, value) :: (← flowEntries depth false)
    | some .flowMappingEnd =>
      skip
      return []
    | _ =>
      let key ← node depth false false
      let value ← blank
      return (key, value) :: (← flowEntries depth false)

end

/-- The handles of tags that are always known. -/
def commonHandles : List (String × String) := [("!", "!"), ("!!", "tag:yaml.org,2002:")]

/-- Read the directives of a document, each at most once; tells whether there are any. -/
def directives : List Token → Bool → List (String × String) →
    Option (List Token × Bool × List (String × String))
  | .versionDirective :: rest, versioned, handles =>
    if versioned then none else directives rest true handles
  | .tagDirective handle beginning :: rest, versioned, handles =>
    if (handles.lookup handle).isSome then none
    else directives rest versioned (handles ++ [(handle, beginning)])
  | tokens, versioned, handles => some (tokens, versioned || !handles.isEmpty, handles)

/-- Read the outermost node of a document that may start with a boundary; directives need one. -/
def root (depth : Nat) (directed : Bool) : NodeReader Node := do
  match ← peek with
  | none => if directed then failure else blank
  | some .documentStart =>
    skip
    let state ← get
    if state.tokens.isEmpty then blank
    else
      match ← peek with
      | some .versionDirective => blank
      | some (.tagDirective _ _) => blank
      | some .documentStart => blank
      | some .documentEnd => blank
      | _ => node depth true false
  | _ => if directed then failure else node depth true false

end NodeReader

/-- The document of a text that holds at most one. -/
def document? (text : String) : Option Document := do
  let tokens ← tokens? text
  let (tokens, directed, handles) ← NodeReader.directives tokens false []
  let start : NodeState := ⟨tokens, [], [], 0, 0, handles ++ NodeReader.commonHandles⟩
  let (root, state) ← NodeReader.root (4 * tokens.length + 4) directed start
  if state.tokens.all (· == .documentEnd) then some ⟨root, state.anchored, state.size⟩ else none

end Scaffold.Yaml
