import Scaffold.Shell.Expanding
import Scaffold.Shell.Tools

/-!
# Running scripts

A script is run line by line; its status is that of the last command. A command whose name is not
known fails with status 127. Texts and functions within a script are run by what is given for
them, so that scripts may be nested only up to a limit.
-/

namespace Scaffold.Shell

/-- Follow a redirection; tells whether that went well. -/
def follow (deeper : Deeper) : Redirection → Running Bool
  | .input source => do redirectFrom (← expandOne deeper source)
  | .output stream target appends => do redirectTo stream (← expandOne deeper target) appends
  | .duplicate stream source => do redirectLike stream (← expandOne deeper source)

/-- Follow redirections up to the first that goes wrong. -/
def followAll (deeper : Deeper) : List Redirection → Running Bool
  | [] => return true
  | redirection :: rest => do
    if ← follow deeper redirection then followAll deeper rest else return false

/-- Run something with its streams redirected; if a file cannot be opened the status is two. -/
def runRedirected (deeper : Deeper) (redirections : List Redirection) (running : Running Unit) :
    Running Unit :=
  let reads := redirections.any fun redirection => redirection matches .input _
  restoringStreams reads do
    if ← followAll deeper redirections then running else Running.setStatus 2

/-- Leave a strict shell if the last command failed and nothing depends on that. -/
def leaveIfStrict : Running Unit := do
  let state ← get
  if state.strict && !state.tested && state.status != 0 then throw (.left state.status)

/-- The name of the parameter that a word sets, and the word for its value. -/
def assignment? (word : Word) : Option (String × Word) :=
  match word with
  | .text chars false :: rest =>
    let name := chars.takeWhile isNameChar
    let isName := name.head?.any fun char => !char.isDigit
    if isName && (chars.drop name.length).head? == some '=' then
      some (String.ofList name, .text (chars.drop (name.length + 1)) false :: rest)
    else none
  | _ => none

/-- Set the parameters that words in front of a command set, and give their names with their
values, and the other words. -/
def takeAssignments (deeper : Deeper) : List Word → Running (List (String × String) × List Word)
  | [] => return ([], [])
  | word :: rest => do
    match assignment? word with
    | some (name, value) =>
      let value ← expandOne deeper value
      Running.bind name value
      let (entries, words) ← takeAssignments deeper rest
      return ((name, value) :: entries, words)
    | none => return ([], word :: rest)

/-- Run another shell, which has a name and sees only what is exported. -/
def runShell (name : String) (arguments : List String) (running : Running Unit) : Running Unit :=
  Running.isolate do
    modify fun state =>
      { state with
        name := name
        bindings := state.bindings.filter fun entry => state.exported.contains entry.1
        functions := []
        arguments := arguments
        strict := false
        tested := false
        status := 0 }
    running

/-- Fail because a command cannot be run. -/
def failToRun (lead name : String) : Running Unit := do
  if name.toList.contains '/' && (← get).disk.has ⟨name⟩ then
    Running.complainHere (lead ++ name ++ ": Permission denied")
    Running.setStatus 126
  else
    Running.complainHere (lead ++ name ++ ": not found")
    Running.setStatus 127

/-- Run a tool, or fail. -/
def runNamed (lead name : String) (arguments : List String) : Running Unit := do
  match runTool? name arguments with
  | some running => Running.setStatus (← running)
  | none => failToRun lead name

/-- Run the text of a file as a script. -/
def runFile (deeper : Deeper) (isSourced : Bool) (path : String) : Running Unit := do
  match (← get).disk.readText ⟨path⟩ with
  | .ok text => deeper.text text
  | .error _ =>
    let lead := if isSourced then ".: cannot open " else "cannot open "
    Running.complainHere (lead ++ path ++ ": No such file")
    throw (.left 2)

/-- Run a function. -/
def runFunction (deeper : Deeper) (body : Script) (arguments : List String) : Running Unit := do
  let before := (← get).arguments
  modify fun state => { state with arguments := arguments }
  let ending? ← Running.attempt (deeper.script body)
  modify fun state => { state with arguments := before }
  match ending? with
  | some .returned => pure ()
  | ending? => Running.resume ending?

/-- Run a command by its words, the first of which names it. -/
def runWords (deeper : Deeper) (words : List String) : Running Unit := do
  match words with
  | [] => Running.setStatus 0
  | "exec" :: name :: arguments =>
    match programName name with
    | "sh" => runSh arguments
    | name => runNamed "exec: " name arguments
    throw (.left (← get).status)
  | "exec" :: [] => Running.setStatus 0
  | "eval" :: arguments => deeper.text (" ".intercalate arguments)
  | "command" :: "-v" :: name :: _ =>
    if (runTool? name []).isSome then
      writeLines [if externalTools.contains name then "/usr/bin/" ++ name else name]
      Running.setStatus 0
    else Running.setStatus 127
  | "command" :: name :: arguments => runNamed "" name arguments
  | "." :: path :: _ => runFile deeper true path
  | name :: arguments =>
    match (← get).functions.lookup name, programName name with
    | some body, _ => runFunction deeper body arguments
    | none, "sh" => runSh arguments
    | none, name => runNamed "" name arguments
where
  /-- Run another shell on a text, a file, or the input. -/
  runSh (arguments : List String) : Running Unit := do
    match arguments with
    | "-c" :: text :: others => runShell (others.headD "sh") others.tail (deeper.text text)
    | "-e" :: "-c" :: text :: others =>
      runShell (others.headD "sh") others.tail do
        modify fun state => { state with strict := true }
        deeper.text text
    | path :: others => runShell path others (runFile deeper false path)
    | [] =>
      let text := Text.decodeLossy (← Running.takeInput)
      runShell "sh" [] (deeper.text text)

/-- Whether a script runs while a word is expanded. -/
def hasOutput (word : Word) : Bool :=
  word.any fun part => part matches .expansion (.output _) _

/-- Run a command on a line. -/
def runCommand (deeper : Deeper) (line : Nat) (words : List Word)
    (redirections : List Redirection) : Running Unit := do
  modify fun state => { state with line := line }
  let hasStatus := words.any hasOutput
  let (entries, words) ← takeAssignments deeper words
  let texts ← expandAll deeper words
  if texts == ["exec"] then
    unless ← followAll deeper redirections do throw (.left 2)
    Running.setStatus 0
  else if texts.isEmpty then
    runRedirected deeper redirections (if hasStatus then pure () else Running.setStatus 0)
  else
    let exported := (← get).exported
    modify fun state => { state with exported := entries.map Prod.fst ++ state.exported }
    let ending? ← Running.attempt (runRedirected deeper redirections (runWords deeper texts))
    modify fun state =>
      { state with
        bindings := entries.foldl List.erase state.bindings
        exported := if entries.isEmpty then state.exported else exported }
    Running.resume ending?
  leaveIfStrict

/-- Run two scripts, the input of the second being the output of the first. -/
def runPipe (first second : Running Unit) : Running Unit := do
  let before ← get
  let index := before.buffers.size
  set { before with buffers := before.buffers.push .empty, outputSink := .buffer index }
  let ending? ← Running.attempt (Running.isolate first)
  let middle ← get
  set { middle with
    buffers := middle.buffers.take index
    outputSink := before.outputSink
    input := middle.bytes index
    elapsed := before.elapsed }
  match ending? with
  | some .endless => pure ()
  | ending? => Running.resume ending?
  Running.isolate second
  modify fun state =>
    { state with input := before.input, elapsed := max state.elapsed middle.elapsed }

/-- Run something in the background. -/
def runAside (running : Running Unit) : Running Unit := do
  let before ← get
  let ending? ← Running.attempt (Running.isolate running)
  modify fun state =>
    let ended :=
      match ending?, state.limit? with
      | none, _ => state.elapsed
      | some _, some limit => limit + 1
      | some _, none => state.elapsed
    { state with
      status := 0, input := before.input, elapsed := before.elapsed
      lasting := max state.lasting ended }

/-- Run a round of a loop; tells whether the loop goes on. -/
def runRound (body : Running Unit) : Running Bool := do
  match ← Running.attempt body with
  | none => return true
  | some (.broke loops) =>
    if 1 < loops then throw (.broke (loops - 1))
    Running.setStatus 0
    return false
  | some (.continued loops) =>
    if 1 < loops then throw (.continued (loops - 1))
    Running.setStatus 0
    return true
  | some ending => throw ending

/-- Run rounds as long as a condition succeeds, or fails; `status` is that of the last round. -/
def runRounds (untilSuccess : Bool) (condition body : Running Unit) :
    Nat → Nat → Running Unit
  | 0, _ => throw .endless
  | rounds + 1, status => do
    Running.test condition
    if ((← get).status == 0) == untilSuccess then Running.setStatus status
    else if ← runRound body then
      runRounds untilSuccess condition body rounds (← get).status

/-- Run a round for each item. -/
def runEach (name : String) (body : Running Unit) : List String → Running Unit
  | [] => return ()
  | item :: rest => do
    Running.bind name item
    if ← runRound body then runEach name body rest

/-- Whether a text fits one of some patterns. -/
def fitsAny (deeper : Deeper) (text : String) : List Word → Running Bool
  | [] => return false
  | word :: rest => do
    if fits (patternOf (← wordGlyphs deeper word)) text.toList then return true
    else fitsAny deeper text rest

/-- Run a script. -/
def Script.run (deeper : Deeper) : Script → Running Unit
  | .nothing => return ()
  | .command line words redirections => runCommand deeper line words redirections
  | .isolated body => do
    Running.isolate (body.run deeper)
    leaveIfStrict
  | .redirected body redirections => runRedirected deeper redirections (body.run deeper)
  | .pipe first second => do
    runPipe (first.run deeper) (second.run deeper)
    leaveIfStrict
  | .negated body => do
    Running.test (body.run deeper)
    modify fun state => { state with status := if state.status == 0 then 1 else 0 }
  | .both first second => do
    Running.test (first.run deeper)
    if (← get).status == 0 then second.run deeper
  | .either first second => do
    Running.test (first.run deeper)
    if (← get).status != 0 then second.run deeper
  | .sequence first second => do
    first.run deeper
    second.run deeper
  | .background body => runAside (body.run deeper)
  | .branch condition success failure => do
    Running.test (condition.run deeper)
    if (← get).status == 0 then success.run deeper
    else
      Running.setStatus 0
      failure.run deeper
  | .loop untilSuccess condition body =>
    runRounds untilSuccess (condition.run deeper) (body.run deeper) endlessCount 0
  | .each name items? body => do
    let items ←
      match items? with
      | some words => expandAll deeper words
      | none => State.arguments <$> get
    Running.setStatus 0
    runEach name (body.run deeper) items
  | .fitting subject patterns body rest => do
    let text ← expandOne deeper subject
    Running.setStatus 0
    if ← fitsAny deeper text patterns then body.run deeper else rest.run deeper
  | .function name body => do
    modify fun state => { state with functions := (name, body) :: state.functions }
    Running.setStatus 0

/-- Run lines of commands, at most `count` of them. -/
def runLines (deeper : Deeper) : Nat → List PlacedLexeme → Running Unit
  | 0, _ => return ()
  | count + 1, lexemes => do
    match readLine? lexemes with
    | .ok none => return ()
    | .ok (some (script, rest)) =>
      script.run deeper
      runLines deeper count rest
    | .error fault =>
      modify fun state => { state with line := (lexemes.head?.map (·.line)).getD 1 }
      Running.complainHere fault.message
      throw (.left 2)

/-- Run a text as a script. -/
def runText (deeper : Deeper) (text : String) : Running Unit := do
  match lexemes text with
  | .ok lexemes => runLines deeper (lexemes.length + 1) lexemes
  | .error fault =>
    Running.complainHere fault.message
    throw (.left 2)

/-- What runs within a script, at most so many levels deep. -/
def deeperWithin : Nat → Deeper
  | 0 => ⟨fun _ => throw .endless, fun _ => throw .endless, fun _ => throw .endless⟩
  | depth + 1 =>
    let deeper := deeperWithin depth
    ⟨runText deeper, Script.run deeper, wordGlyphs deeper⟩

/-- How deep scripts may be nested. -/
def nestingLimit : Nat := 64

/-- The state after a text was run as a script on a disk, and why it ended early, if it did. -/
def run (disk : Disk) (limit? : Option Nat) (text : String) : State × Option Ending :=
  match runText (deeperWithin nestingLimit) text (.start disk limit?) with
  | .ok _ state =>
    (state, if limit?.any (· ≤ state.lasting) then some .timedOut else none)
  | .error (.left status) state =>
    (state, some (if limit?.any (· ≤ state.lasting) then .timedOut else .left status))
  | .error ending state => (state, some ending)

end Scaffold.Shell
