import SpecTrace.Command.Arguments

/-! The program as a function of its arguments and the files. What it logs on the way is left out:
it changes neither the output nor the files. -/

namespace SpecTrace

/-- The result of the program. -/
structure Outcome where
  /-- Zero for success, one for a failed command and two for a refused command line. -/
  exitCode : Nat
  output : String
  /-- What is said about a failure. -/
  complaint : Option String
  /-- The files afterwards. -/
  tree : FileTree

namespace Outcome

/-- How the program is used. -/
def usage : String :=
  "Usage: apiaudit [--log-level LEVEL] COMMAND\n\n" ++
    "  discover [--root DIR] [--pattern GLOB]...\n" ++
    "  bundle FILE [-o OUTPUT] [--mapping FILE]\n" ++
    "  locate FILE --report FILE [--format text|json|sarif] [-o OUTPUT]"

/-- The version of the program. -/
def version : String := "apiaudit " ++ Sarif.toolVersion

/-- Runs a command in a directory. -/
def ofCommand (tree : FileTree) (here : FilePath) (command : Command) : Outcome :=
  let (result, console) := ((command.run here).run).run ⟨tree, ""⟩
  match result with
  | .ok () => ⟨0, console.printed, none, console.tree⟩
  | .error fault => ⟨1, console.printed, some ("Error: " ++ fault.message), console.tree⟩

/-- Runs the program in a directory. -/
def ofArguments (tree : FileTree) (here : FilePath) (rootVariable : Option String)
    (arguments : List String) : Outcome :=
  match Invocation.parse rootVariable false arguments with
  | .error fault => ⟨2, "", some ("error: " ++ fault.message ++ "\n\n" ++ usage), tree⟩
  | .ok .help => ⟨0, usage ++ "\n", none, tree⟩
  | .ok .version => ⟨0, version ++ "\n", none, tree⟩
  | .ok (.run command) => ofCommand tree here command

end Outcome

end SpecTrace
