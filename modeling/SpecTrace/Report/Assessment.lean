import SpecTrace.Json.Value
import SpecTrace.Number.Decimal

/-! Assessment reports: findings by category, with keys into a table of pointers. -/

namespace SpecTrace

/-- The key of a pointer in the table of a report. -/
inductive PointerKey where
  | position (index : Nat)
  | name (text : String)
deriving DecidableEq, Repr

/-- The key as text. -/
def PointerKey.text : PointerKey → String
  | .position index => toString index
  | .name text => text

/-- The table of pointers of a report. -/
inductive PointerTable where
  | list (pointers : List String)
  | map (pointers : List (String × String))
deriving DecidableEq, Repr

/-- The pointer under a key. In a list, a name counts if it spells a position of 64 bits. -/
def PointerTable.get? : PointerTable → PointerKey → Option String
  | .list pointers, .position index => pointers[index]?
  | .list pointers, .name text => do
    let index ← readNatural? 10 text.toList
    if index < Nat.pow 2 64 then pointers[index]? else none
  | .map pointers, key => lookupMember? pointers key.text

/-- One occurrence of an issue. -/
structure SubIssue where
  pointer : PointerKey
  specificDescription : Option String
  score : Option Finite64
deriving DecidableEq, Repr

/-- All occurrences of an issue. -/
structure IssueGroup where
  description : Option String
  criticality : Option Int
  issues : List SubIssue
deriving DecidableEq, Repr

/-- The issues of a category by their ids, in the order of the report. -/
structure Category where
  score : Option Finite64
  issues : List (String × IssueGroup)
deriving DecidableEq, Repr

/-- A report. -/
structure Assessment where
  score : Option Finite64
  openApiState : Option String
  index : PointerTable
  data : Option Category
  security : Option Category
  warnings : Option Category
  semanticErrors : Option Category
  validationErrors : Option Category
deriving DecidableEq, Repr

namespace Assessment

/-- The criticality of warnings that state none. -/
def warningCriticality : Int := 1

/-- The criticality of all other issues that state none. -/
def defaultCriticality : Int := 5

/-- The categories that are present: name, content and default criticality. -/
def categories (a : Assessment) : List (String × Category × Int) :=
  let present (name : String) (category : Option Category) (criticality : Int) :
      List (String × Category × Int) :=
    category.toList.map fun category => (name, category, criticality)
  present "data" a.data defaultCriticality ++
    present "security" a.security defaultCriticality ++
    present "warnings" a.warnings warningCriticality ++
    present "semanticErrors" a.semanticErrors defaultCriticality ++
    present "validationErrors" a.validationErrors defaultCriticality

end Assessment

end SpecTrace
