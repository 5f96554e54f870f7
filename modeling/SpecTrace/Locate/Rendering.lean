import SpecTrace.Locate.Sarif
import SpecTrace.Text.CharacterClass

/-! The texts that located issues are written as. -/

namespace SpecTrace

/-- A format of located issues. -/
inductive IssueFormat where
  | text
  | json
  | sarif
deriving DecidableEq, Repr

namespace Issue

/-- A line of text for people. -/
def summary (issue : Issue) : String :=
  let place :=
    match issue.line with
    | some line => issue.file ++ ":" ++ toString line
    | none => issue.file
  place ++ " [" ++ issue.severity.name ++ "] " ++ issue.id ++ " (score impact " ++
    issue.displayScore ++ "): " ++ issue.description

/-- The lines of issues, without white space at the end. -/
def listing (issues : List Issue) : String :=
  if issues.isEmpty then "No issues found."
  else
    String.ofList (trimEnd (issues.flatMap fun issue => issue.summary.toList ++ ['\n']))

/-- An optional value as a JSON value. -/
def optionJson {α : Type} (toJson : α → Json) (value : Option α) : Json :=
  (value.map toJson).getD .null

/-- A score as a JSON value; JSON has no infinity and nothing that is no number. -/
def scoreJson : Binary64 → Json
  | .finite x => .number (.float x)
  | _ => .null

/-- The issue as a JSON value. -/
def toJson (issue : Issue) : Json :=
  let nat (n : Nat) : Json := .number (.int n)
  let range (span : Span) : Json := .array [nat span.start, nat span.stop]
  .object
    [("id", .string issue.id), ("description", .string issue.description),
      ("pointer", .string issue.pointer), ("file", .string issue.file),
      ("line", optionJson nat issue.line), ("range", optionJson range issue.span),
      ("severity", .string issue.severity.name),
      ("criticality", .number (.int issue.criticality)), ("score", scoreJson issue.score),
      ("displayScore", .string issue.displayScore)]

/-- Issues in a format. -/
def render (issues : List Issue) : IssueFormat → String
  | .text => listing issues
  | .json => (Json.array (issues.map toJson)).prettyText
  | .sarif => (Sarif.ofIssues issues).toJson.prettyText

end Issue

end SpecTrace
