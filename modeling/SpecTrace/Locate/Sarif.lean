import SpecTrace.Json.Printer
import SpecTrace.Locate.Issue

/-! Located issues as a SARIF log: one rule for each issue id, one artifact for each file and one
result for each issue. -/

namespace SpecTrace.Sarif

/-- The level of a criticality. -/
def level (criticality : Int) : String :=
  if criticality = 1 ∨ criticality = 2 then "note"
  else if criticality = 3 then "warning"
  else "error"

/-- The URI of a file; a path that is not absolute stands for itself. -/
def fileUri (path : String) : String :=
  match Url.ofFile? path with
  | some path => "file://" ++ String.ofList path
  | none => path

/-- The rule for an issue id, described as by the first issue that has it. -/
structure Rule where
  id : String
  description : String
deriving DecidableEq, Repr

/-- A file, known by the components of its path. -/
structure Artifact where
  file : List PathComponent
  uri : String
deriving DecidableEq, Repr

/-- An issue with the numbers of its rule and its artifact. -/
structure Result where
  ruleId : String
  ruleIndex : Nat
  level : String
  message : String
  uri : String
  artifactIndex : Nat
  line : Option Nat
deriving DecidableEq, Repr

/-- A log. -/
structure Log where
  rules : List Rule
  artifacts : List Artifact
  results : List Result
deriving DecidableEq, Repr

/-- The index of the first element with a key, and the list with a new element at its end if
there was none. -/
def indexIn {α β : Type} [DecidableEq β] (key : α → β) (wanted : α) (list : List α) :
    Nat × List α :=
  match list.findIdx? fun element => key element = key wanted with
  | some index => (index, list)
  | none => (list.length, list ++ [wanted])

/-- The log with one more issue. -/
def Log.add (log : Log) (issue : Issue) : Log :=
  let uri := fileUri issue.file
  let artifact : Artifact := ⟨pathComponents issue.file, uri⟩
  let (artifactIndex, artifacts) := indexIn Artifact.file artifact log.artifacts
  let (ruleIndex, rules) := indexIn Rule.id ⟨issue.id, issue.description⟩ log.rules
  let result : Result :=
    { ruleId := issue.id
      ruleIndex
      level := level issue.criticality
      message := issue.description
      uri
      artifactIndex
      line := issue.line }
  ⟨rules, artifacts, log.results ++ [result]⟩

/-- The log of issues. -/
def ofIssues (issues : List Issue) : Log :=
  issues.foldl Log.add ⟨[], [], []⟩

/-- A number as a JSON value. -/
def natJson (n : Nat) : Json :=
  .number (.int n)

/-- A text as a message. -/
def messageJson (text : String) : Json :=
  .object [("text", .string text)]

/-- A rule as a JSON value. -/
def Rule.toJson (rule : Rule) : Json :=
  .object
    [("id", .string rule.id), ("shortDescription", messageJson rule.description),
      ("properties", .object [("category", .string "Other")])]

/-- An artifact as a JSON value. -/
def Artifact.toJson (artifact : Artifact) : Json :=
  .object [("location", .object [("uri", .string artifact.uri)])]

/-- A result as a JSON value; one without a line has no region. -/
def Result.toJson (result : Result) : Json :=
  let artifact : Json :=
    .object [("uri", .string result.uri), ("index", natJson result.artifactIndex)]
  let region := result.line.toList.map fun line =>
    ("region", Json.object [("startLine", natJson line), ("startColumn", natJson 1)])
  let location : Json :=
    .object [("physicalLocation", .object (("artifactLocation", artifact) :: region))]
  .object
    [("ruleId", .string result.ruleId), ("ruleIndex", natJson result.ruleIndex),
      ("level", .string result.level), ("message", messageJson result.message),
      ("locations", .array [location])]

/-- The name of the tool in logs. -/
def toolName : String := "apiaudit"

/-- The version of the tool in logs. -/
def toolVersion : String := "0.1.0"

/-- A log as a JSON value. -/
def Log.toJson (log : Log) : Json :=
  let driver : Json :=
    .object
      [("name", .string toolName), ("version", .string toolVersion),
        ("rules", .array (log.rules.map Rule.toJson))]
  let run : Json :=
    .object
      [("tool", .object [("driver", driver)]),
        ("artifacts", .array (log.artifacts.map Artifact.toJson)),
        ("results", .array (log.results.map Result.toJson))]
  .object
    [("$schema", .string "http://json.schemastore.org/sarif-2.1.0-rtm.4"),
      ("version", .string "2.1.0"), ("runs", .array [run])]

end SpecTrace.Sarif
