import SpecTrace.Json.Value
import SpecTrace.Pointer

/-! Putting content at a free place of a JSON value. -/

namespace SpecTrace.Json

/-- Puts content at a pointer and creates the objects on the way. There has to be an object or
nothing at each step, and nothing at the end; the root cannot be replaced. -/
def insertAt? : Json → Pointer → Json → Option Json
  | .object members, [last], content =>
    match lookupMember? members last with
    | some _ => none
    | none => some (.object (insertMember members last content))
  | .object members, segment :: rest, content => do
    let child := (lookupMember? members segment).getD (.object [])
    let filled ← child.insertAt? rest content
    some (.object (insertMember members segment filled))
  | _, _, _ => none

end SpecTrace.Json
