/-! The causes for which bundling, locating and reading a report fail. -/

namespace SpecTrace

/-- What the file system answers when a file cannot be used. -/
inductive IoFault where
  | notFound
  | alreadyExists
  | notDirectory
  | isDirectory
  | invalidText
  | nulInName
  /-- Any other answer, in its own words. -/
  | other (text : String)
deriving DecidableEq, Repr

/-- The wording of an answer. -/
def IoFault.message : IoFault → String
  | .notFound => "No such file or directory (os error 2)"
  | .alreadyExists => "File exists (os error 17)"
  | .notDirectory => "Not a directory (os error 20)"
  | .isDirectory => "Is a directory (os error 21)"
  | .invalidText => "stream did not contain valid UTF-8"
  | .nulInName => "file name contained an unexpected NUL byte"
  | .other text => text

/-- Why an audit fails. -/
inductive AuditFault where
  | io (cause : IoFault)
  /-- A text is malformed. -/
  | syntaxFault (file : String) (offset : Nat) (text : String)
  /-- A reference leads nowhere. -/
  | unresolved (file reference reason : String)
  /-- Content cannot be placed at its destination. -/
  | collision (path : String)
  /-- A document of an unknown version refers to another file. -/
  | unsupportedVersion (file : String)
  /-- A reference would have to be inlined into itself. -/
  | circular (file reference : String)
  /-- No origin is recorded for a pointer. -/
  | noProvenance (pointer : String)
  /-- A pointer of a report leads nowhere. -/
  | notLocated (pointer : String)
  /-- A criticality is not from one to five. -/
  | invalidCriticality (number : Int)
  /-- A report is malformed. -/
  | report (reason : String)
  | general (reason : String)
  /-- A walk through references was cut off. -/
  | exhausted
deriving DecidableEq, Repr

namespace AuditFault

/-- The wording of a fault. -/
def message : AuditFault → String
  | .io cause => "IO Error: " ++ cause.message
  | .syntaxFault file offset text =>
    "Failed to parse " ++ file ++ " at offset " ++ toString offset ++ ": " ++ text
  | .unresolved file reference reason =>
    "Unable to resolve reference '" ++ reference ++ "' from " ++ file ++ ": " ++ reason
  | .collision path => "Unable to merge, object already exists at path: " ++ path
  | .unsupportedVersion file =>
    "Unsupported OpenAPI version in " ++ file ++
      ": cross-file references require swagger 2.0 or openapi 3.0.x"
  | .circular file reference =>
    "Circular reference '" ++ reference ++ "' in " ++ file ++ " cannot be inlined"
  | .noProvenance pointer => "No provenance recorded for pointer: " ++ pointer
  | .notLocated pointer => "Cannot find entry for pointer: " ++ pointer
  | .invalidCriticality number => "Invalid criticality: " ++ toString number
  | .report reason => "Report Error: " ++ reason
  | .general reason => "General Error: " ++ reason
  | .exhausted => "General Error: references lead too deep into one another"

/-- The fault concerns a single issue of a report and not the audit as a whole. -/
def isPerIssue : AuditFault → Bool
  | .noProvenance _ => true
  | .notLocated _ => true
  | _ => false

end AuditFault

/-- Why a command fails. -/
inductive CommandFault where
  | audit (cause : AuditFault)
  | io (cause : IoFault)
  | config (reason : String)
  | general (reason : String)
deriving DecidableEq, Repr

/-- The wording of a fault. -/
def CommandFault.message : CommandFault → String
  | .audit cause => cause.message
  | .io cause => "IO Error: " ++ cause.message
  | .config reason => "Configuration error: " ++ reason
  | .general reason => "Operation failed: " ++ reason

end SpecTrace
