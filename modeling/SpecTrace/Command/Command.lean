import SpecTrace.Bundle.Bundle
import SpecTrace.Discovery.Discovery
import SpecTrace.Locate.Rendering
import SpecTrace.Report.Reading
import SpecTrace.Settings.Settings
import SpecTrace.Workspace.Writing
import SpecTrace.Yaml.Printer

/-! The commands, and what they do to the files and to the output. -/

namespace SpecTrace

/-- A command with its arguments; paths are texts as they were given. -/
inductive Command where
  /-- Lists the documents below a directory; without patterns the configured ones count. -/
  | discover (root : String) (patterns : List String)
  /-- Bundles a file and writes the document, and its provenance if there is a place for it. -/
  | bundle (file : String) (output mapping : Option String)
  /-- Locates the issues of a report on a file and writes them. -/
  | locate (file report : String) (format : IssueFormat) (output : Option String)
deriving DecidableEq, Repr

/-- Files, and the text printed so far. -/
structure Console where
  tree : FileTree
  printed : String

/-- A step of a command; what it wrote and printed stays even if it fails. -/
abbrev Running := ExceptT CommandFault (StateM Console)

namespace Command

/-- Fails the command if a step on the files fails. -/
def orFail {α : Type} (result : Except IoFault α) : Running α :=
  match result with
  | .ok value => pure value
  | .error fault => throw (.io fault)

/-- Runs an audit that starts without any documents. -/
def audited {α : Type} (audit : Auditing α) : Running α :=
  match (audit.run .empty).1 with
  | .ok value => pure value
  | .error fault => throw (.audit fault)

/-- Prints a line. -/
def printLine (line : String) : Running Unit :=
  modify fun console => { console with printed := console.printed ++ line ++ "\n" }

/-- Writes a text to a file. -/
def writeFile (here : FilePath) (path text : String) : Running Unit := do
  let tree ← orFail ((← get).tree.write (here.join path) text)
  modify fun console => { console with tree }

/-- Writes a text to a file, or prints it if no file is given. -/
def writeOrPrint (here : FilePath) (output : Option String) (text : String) : Running Unit :=
  match output with
  | some path => writeFile here path text
  | none => printLine text

/-- The text of a file. -/
def readFile (here : FilePath) (path : String) : Running String := do
  let tree := (← get).tree
  let place ← orFail (tree.resolve (here.join path))
  orFail (tree.readText place)

/-- A document in the format that the name of the output asks for. -/
def documentText (document : Json) (output : Option String) : String :=
  match output.map Format.ofPath with
  | some .yaml => Yaml.print document
  | _ => document.prettyText

/-- Lists documents, one a line, without those that have an id already. -/
def runDiscover (here : FilePath) (root : String) (patterns : List String) : Running Unit := do
  let tree := (← get).tree
  let settings ← ExceptT.mk (pure (Settings.load tree here root))
  match if patterns.isEmpty then settings.patterns else some patterns with
  | none => pure ()
  | some patterns =>
    let mapped := settings.mapping.map Prod.fst
    let found ← ExceptT.mk (pure (Discovery.find tree here root patterns mapped))
    for path in found do printLine (relativeText path)

/-- Bundles a file. -/
def runBundle (here : FilePath) (file : String) (output mapping : Option String) :
    Running Unit := do
  let bundle ← audited (Bundle.build (← get).tree (here.join file))
  writeOrPrint here output (documentText bundle.document output)
  match mapping with
  | some path => writeFile here path bundle.provenance.toJson.prettyText
  | none => pure ()

/-- Locates the issues of a report. -/
def runLocate (here : FilePath) (file report : String) (format : IssueFormat)
    (output : Option String) : Running Unit := do
  let text ← readFile here report
  let tree := (← get).tree
  let issues ← audited do
    let assessment ← Report.read text
    let bundle ← Bundle.build tree (here.join file)
    (← Locator.ofBundle tree bundle).issues assessment
  writeOrPrint here output (Issue.render issues format)

/-- Runs a command; its paths are taken from `here`. -/
def run (here : FilePath) : Command → Running Unit
  | discover root patterns => runDiscover here root patterns
  | bundle file output mapping => runBundle here file output mapping
  | locate file report format output => runLocate here file report format output

end Command

end SpecTrace
