import SpecTrace.Document.JsonText
import SpecTrace.Path.Components
import SpecTrace.Yaml.Block

/-! The two formats of documents. -/

namespace SpecTrace

/-- The syntax that a document is written in. -/
inductive Format where
  | json
  | yaml
deriving DecidableEq, Repr

namespace Format

/-- Files whose name ends in `.yaml` or `.yml`, in any case, are YAML; all others are JSON. -/
def ofPath (path : String) : Format :=
  match ((fileName? path).bind nameExtension?).map fun text => text.map Char.toLower with
  | some "yaml" => .yaml
  | some "yml" => .yaml
  | _ => .json

end Format

/-- Reads a text in a format. -/
def readDocument (format : Format) (text : String) : Reading Node :=
  match format with
  | .json => JsonText.read text.toList
  | .yaml => Yaml.read text.toList

end SpecTrace
