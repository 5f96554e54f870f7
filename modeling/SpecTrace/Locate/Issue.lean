import SpecTrace.Audit.Severity
import SpecTrace.Locate.Locator
import SpecTrace.Report.Assessment

/-! Issues of a report with the places in source files that they concern. -/

namespace SpecTrace

/-- A finding and where it is. -/
structure Issue where
  id : String
  description : String
  /-- The pointer as the report spells it. -/
  pointer : String
  /-- The file it was located in, or the root file. -/
  file : String
  line : Option Nat
  span : Option Span
  severity : Severity
  criticality : Int
  /-- The magnitude of the score. -/
  score : Binary64
  /-- The score for people. -/
  displayScore : String

namespace Issue

/-- The issue has a place. -/
def isLocated (issue : Issue) : Bool :=
  issue.line.isSome

end Issue

namespace Binary64

/-- The place of a value without a sign in the total order: numbers, infinity, not-a-number. -/
def magnitudeRank : Binary64 → Nat
  | .finite x => x.rank
  | .infinite _ => 9218868437227405312
  | .nan => 9218868437227405313

end Binary64

/-- A group of a category with what its issues inherit. -/
structure GroupContext where
  id : String
  group : IssueGroup
  criticality : Int
  severity : Severity

/-- The criticality of a group; none and zero stand for the default. -/
def IssueGroup.criticalityOr (group : IssueGroup) (default : Int) : Int :=
  match group.criticality with
  | some criticality => if criticality = 0 then default else criticality
  | none => default

namespace Locator

/-- The place of a pointer; a pointer that leads nowhere has none. -/
def tryLocate (locator : Locator) (pointer : Pointer) : Auditing (Option Location) :=
  tryCatch (do pure (some (← locator.locate pointer))) fun fault =>
    if fault.isPerIssue then pure none else throw fault

/-- The issue that an occurrence stands for. -/
def issue (locator : Locator) (index : PointerTable) (context : GroupContext) (sub : SubIssue) :
    Auditing Issue := do
  match index.get? sub.pointer with
  | none =>
    throw (.report ("Issue '" ++ context.id ++ "' refers to missing index entry " ++
      sub.pointer.text))
  | some pointer =>
    let location ← locator.tryLocate (Pointer.parse pointer)
    let score := sub.score.getD .zero
    let description := sub.specificDescription <|> context.group.description
    pure
      { id := context.id
        description := description.getD ""
        pointer
        file := ((location.map Location.file).getD locator.root.path).text
        line := location.map Location.line
        span := location.map Location.span
        severity := context.severity
        criticality := context.criticality
        score := .finite score.abs
        displayScore := Binary64.displayScore (.finite score) }

/-- The issues of a group. -/
def groupIssues (locator : Locator) (index : PointerTable) (default : Int) (id : String)
    (group : IssueGroup) : Auditing (List Issue) := do
  let criticality := group.criticalityOr default
  let severity ← Severity.ofCriticality criticality
  group.issues.mapM (locator.issue index ⟨id, group, criticality, severity⟩)

/-- The issues of a report in its order. -/
def reportIssues (locator : Locator) (assessment : Assessment) : Auditing (List Issue) := do
  let groups := assessment.categories.flatMap fun (_, category, default) =>
    category.issues.map fun (id, group) => (default, id, group)
  let issues ← groups.mapM fun (default, id, group) =>
    locator.groupIssues assessment.index default id group
  pure issues.flatten

/-- The issues of a report, those with the largest scores first. -/
def issues (locator : Locator) (assessment : Assessment) : Auditing (List Issue) := do
  let issues ← locator.reportIssues assessment
  pure (issues.mergeSort fun a b => b.score.magnitudeRank ≤ a.score.magnitudeRank)

end Locator

end SpecTrace
