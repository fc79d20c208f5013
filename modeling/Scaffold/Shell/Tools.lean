import Scaffold.Shell.Builtins
import Scaffold.Shell.Streams

/-!
# Tools by name

The commands that scripts can call.
-/

namespace Scaffold.Shell

/-- The names of the tools that are programs of their own. -/
def externalTools : List String :=
  ["sleep", "cat", "head", "tail", "wc", "sort", "uniq", "seq", "tee", "tr", "grep", "basename",
    "dirname", "yes", "ls", "touch", "mkdir", "rm", "rmdir", "cp", "mv", "ln", "chmod"]

/-- The directories of programs. -/
def programDirectories : List String := ["/usr/bin/", "/bin/"]

/-- The name of a program that a command names, be it by its path. -/
def programName (command : String) : String :=
  let names := programDirectories.filterMap fun directory =>
    if directory.toList.isPrefixOf command.toList then
      some (String.ofList (command.toList.drop directory.toList.length))
    else none
  match names.find? fun name => (["sh", "true", "false"] ++ externalTools).contains name with
  | some name => name
  | none => command

/-- Run a tool by its name; none if there is no such tool. -/
def runTool? (name : String) (arguments : List String) : Option (Running Nat) :=
  match name with
  | "true" => some (return 0)
  | ":" => some (return 0)
  | "false" => some (return 1)
  | "exit" => some (exitTool arguments)
  | "return" => some (returnTool arguments)
  | "break" => some (throw (.broke (loopsOf arguments)))
  | "continue" => some (throw (.continued (loopsOf arguments)))
  | "echo" => some (echoTool arguments)
  | "printf" => some (printfTool arguments)
  | "test" => some (testTool "test" arguments)
  | "[" => some (bracketTool arguments)
  | "cd" => some (cdTool arguments)
  | "pwd" => some pwdTool
  | "kill" => some (killTool arguments)
  | "wait" => some waitTool
  | "read" => some (readTool arguments)
  | "export" => some (exportTool arguments)
  | "unset" => some (unsetTool arguments)
  | "set" => some (setTool arguments)
  | "shift" => some (shiftTool arguments)
  | "umask" => some (return 0)
  | "sleep" => some (sleepTool arguments)
  | "cat" => some (catTool arguments)
  | "head" => some (headTool arguments)
  | "tail" => some (tailTool arguments)
  | "wc" => some (wcTool arguments)
  | "sort" => some (sortTool arguments)
  | "uniq" => some (uniqTool arguments)
  | "seq" => some (seqTool arguments)
  | "tee" => some (teeTool arguments)
  | "tr" => some (trTool arguments)
  | "grep" => some (grepTool arguments)
  | "basename" => some (basenameTool arguments)
  | "dirname" => some (dirnameTool arguments)
  | "yes" => some (yesTool arguments)
  | "ls" => some (lsTool arguments)
  | "touch" => some (touchTool arguments)
  | "mkdir" => some (mkdirTool arguments)
  | "rm" => some (rmTool arguments)
  | "rmdir" => some (rmdirTool arguments)
  | "cp" => some (transferTool "cp" false arguments)
  | "mv" => some (transferTool "mv" true arguments)
  | "ln" => some (lnTool arguments)
  | "chmod" => some (return 0)
  | _ => none

end Scaffold.Shell
