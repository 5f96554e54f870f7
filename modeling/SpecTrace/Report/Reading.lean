import SpecTrace.Audit.Fault
import SpecTrace.Json.Raw
import SpecTrace.Report.Assessment
import SpecTrace.Report.Number

/-! Reading reports. A record is an object, whose unknown members are ignored and whose known ones
must not repeat, or an array of its fields in order. -/

namespace SpecTrace.Report

/-- The key of a member, which has to be a text. -/
def memberKeys? (members : List (Option String × RawJson)) : Option (List (String × RawJson)) :=
  members.mapM fun (key, value) => key.map fun key => (key, value)

/-- The values of the fields of a record; none for a field that is left out. -/
def fields? (names : List String) : RawJson → Option (List (Option RawJson))
  | .object members => do
    let members ← memberKeys? members
    names.mapM fun name =>
      match members.filter fun member => member.1 = name with
      | [] => some none
      | [member] => some (some member.2)
      | _ => none
  | .array items =>
    if items.length ≤ names.length then some (names.mapIdx fun i _ => items[i]?) else none
  | _ => none

/-- A field that may be left out or null. -/
def optional? {α : Type} (read : RawJson → Option α) : Option RawJson → Option (Option α)
  | none => some none
  | some .null => some none
  | some value => (read value).map some

/-- A text. -/
def text? : RawJson → Option String
  | .string text => text
  | _ => none

/-- A number. -/
def number? : RawJson → Option Number
  | .number spelling => Number.read? spelling
  | _ => none

/-- A number as a binary64 number. -/
def score? (value : RawJson) : Option Finite64 :=
  (number? value).bind Number.toFinite64?

/-- An integer of 64 bits with a sign. -/
def criticality? (value : RawJson) : Option Int :=
  match number? value with
  | some (.int i) => if inInt64 i then some i else none
  | _ => none

/-- The items of an array. -/
def items? {α : Type} (read : RawJson → Option α) : RawJson → Option (List α)
  | .array items => items.mapM read
  | _ => none

/-- The members of an object; of members with one key the last value counts at the place of the
first. -/
def members? {α : Type} (read : RawJson → Option α) : RawJson → Option (List (String × α))
  | .object members => do
    let members ← memberKeys? members
    let values ← members.mapM fun (key, value) => (read value).map fun value => (key, value)
    some (values.foldl (fun all member => insertMember all member.1 member.2) [])
  | _ => none

/-- The key of an occurrence: a position or a name. -/
def pointerKey? (value : RawJson) : Option PointerKey :=
  match value with
  | .string text => text.map PointerKey.name
  | _ =>
    match number? value with
    | some (.int i) => if 0 ≤ i then some (.position i.toNat) else none
    | _ => none

/-- The table of pointers: a list or a map of texts. -/
def table? (value : RawJson) : Option PointerTable :=
  ((items? text? value).map PointerTable.list) <|> ((members? text? value).map PointerTable.map)

/-- An occurrence of an issue. -/
def subIssue? (value : RawJson) : Option SubIssue := do
  match ← fields? ["pointer", "specificDescription", "score"] value with
  | [some pointer, description, score] =>
    some ⟨← pointerKey? pointer, ← optional? text? description, ← optional? score? score⟩
  | _ => none

/-- All occurrences of an issue. -/
def group? (value : RawJson) : Option IssueGroup := do
  match ← fields? ["description", "criticality", "issues"] value with
  | [description, criticality, issues] =>
    let issues ← match issues with
      | some issues => items? subIssue? issues
      | none => some []
    some ⟨← optional? text? description, ← optional? criticality? criticality, issues⟩
  | _ => none

/-- A category. -/
def category? (value : RawJson) : Option Category := do
  match ← fields? ["score", "issues"] value with
  | [score, issues] =>
    let issues ← match issues with
      | some issues => members? group? issues
      | none => some []
    some ⟨← optional? score? score, issues⟩
  | _ => none

/-- The names of the fields of a report. -/
def fieldNames : List String :=
  ["score", "openapiState", "index", "data", "security", "warnings", "semanticErrors",
    "validationErrors"]

/-- A report. -/
def assessment? (value : RawJson) : Option Assessment := do
  match ← fields? fieldNames value with
  | [score, state, index, data, security, warnings, semantic, validation] =>
    let index ← match index with
      | some index => table? index
      | none => some (.list [])
    some
      { score := ← optional? score? score
        openApiState := ← optional? text? state
        index
        data := ← optional? category? data
        security := ← optional? category? security
        warnings := ← optional? category? warnings
        semanticErrors := ← optional? category? semantic
        validationErrors := ← optional? category? validation }
  | _ => none

/-- What is wrong with a report that cannot be read. -/
def invalidReason : String := "Invalid assessment report"

/-- Reads the text of a report. -/
def read (text : String) : Except AuditFault Assessment :=
  match (RawJson.read? text.toList).bind assessment? with
  | some assessment => .ok assessment
  | none => .error (.report invalidReason)

end SpecTrace.Report
