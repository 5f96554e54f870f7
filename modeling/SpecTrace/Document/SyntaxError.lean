import SpecTrace.Text.Cursor

/-! What can be wrong with the text of a document, and where. -/

namespace SpecTrace

/-- A tag of a node, as far as the resolution of scalars is concerned. -/
inductive Tag where
  | str
  | int
  | float
  | bool
  | null
  /-- A lone exclamation mark: a plain scalar becomes a string. -/
  | nonSpecific
  /-- Any other tag. -/
  | other
deriving DecidableEq, Repr

/-- How an error message names a tag. -/
def Tag.name : Tag → String
  | .str => "!!str"
  | .int => "!!int"
  | .float => "!!float"
  | .bool => "!!bool"
  | .null => "!!null"
  | .nonSpecific => "!"
  | .other => "tagged"

/-- A cause for which a text is refused. -/
inductive SyntaxFault where
  | aliasWithProperties
  | badMappingIndentation
  | badSequenceIndentation
  | blockSequenceNotAllowed
  | collectionAsKey
  | collectionWithTag (tag : Tag)
  | complexKey
  | contentAfterDocument
  | contentAfterValue
  | controlCharacter
  | duplicateKey (key : String)
  | expected (c : Char)
  | expectedAnchorName
  | expectedColonAfterKey
  | expectedCommaOr (closing : Char)
  | expectedExponentDigits
  | expectedFractionDigits
  | expectedKey
  | expectedStringKey
  | expectedValue
  | invalidBlockHeader
  | invalidEscape
  | invalidEscapeSequence
  | invalidLiteral
  | invalidLowSurrogate
  | invalidNumber
  | invalidTaggedValue (text : String) (tag : Tag)
  | invalidUnicodeEscape
  | mappingValueNotAllowed
  | multipleDocuments
  | nestedCompactMapping
  | nestingTooDeep
  | numberOutOfRange (text : String)
  | propertiesOnFlowKey
  | propertiesOnKey
  | reservedIndicator
  | secondAnchor
  | secondTag
  | sequenceEntryInMapping
  | tooManyAliasNodes
  | truncatedEscapeSequence
  | truncatedUnicodeEscape
  | unexpectedCharacter
  | unexpectedContent
  | unexpectedEnd
  | unknownAlias (name : String)
  | unpairedSurrogate
  | unterminatedEscape
  | unterminatedFlowMapping
  | unterminatedFlowSequence
  | unterminatedQuoted
  | unterminatedString
  | unterminatedTag
deriving DecidableEq, Repr

/-- The wording of a fault. -/
def SyntaxFault.message : SyntaxFault → String
  | .aliasWithProperties => "An alias cannot have an anchor or a tag"
  | .badMappingIndentation => "Bad indentation of a mapping entry"
  | .badSequenceIndentation => "Bad indentation of a sequence entry"
  | .blockSequenceNotAllowed => "Block sequence entries are not allowed here"
  | .collectionAsKey => "Flow collections as mapping keys are not supported"
  | .collectionWithTag tag => tag.name ++ " cannot tag a collection"
  | .complexKey => "Complex mapping keys are not supported"
  | .contentAfterDocument => "Unexpected content after the end of the document"
  | .contentAfterValue => "Unexpected characters after value"
  | .controlCharacter => "Control character in string"
  | .duplicateKey key => "Duplicate key '" ++ key ++ "'"
  | .expected c => "Expected '" ++ c.toString ++ "'"
  | .expectedAnchorName => "Expected an anchor name"
  | .expectedColonAfterKey => "Expected ':' after mapping key"
  | .expectedCommaOr closing => "Expected ',' or '" ++ closing.toString ++ "'"
  | .expectedExponentDigits => "Expected digits in the exponent"
  | .expectedFractionDigits => "Expected digits after the decimal point"
  | .expectedKey => "Expected a mapping key"
  | .expectedStringKey => "Expected a string key"
  | .expectedValue => "Expected a value"
  | .invalidBlockHeader => "Invalid block scalar header"
  | .invalidEscape => "Invalid escape"
  | .invalidEscapeSequence => "Invalid escape sequence"
  | .invalidLiteral => "Invalid literal"
  | .invalidLowSurrogate => "Invalid low surrogate"
  | .invalidNumber => "Invalid number"
  | .invalidTaggedValue text tag => "'" ++ text ++ "' is not a valid " ++ tag.name ++ " value"
  | .invalidUnicodeEscape => "Invalid unicode escape"
  | .mappingValueNotAllowed => "Mapping values are not allowed in this context"
  | .multipleDocuments => "Multiple documents in one file are not supported"
  | .nestedCompactMapping => "Nested mappings are not allowed in compact notation"
  | .nestingTooDeep => "Nesting too deep"
  | .numberOutOfRange text => "Number out of range: " ++ text
  | .propertiesOnFlowKey => "Anchors, tags and aliases on mapping keys are not supported"
  | .propertiesOnKey => "Anchors and tags on mapping keys are not supported"
  | .reservedIndicator => "Reserved indicator cannot start a plain scalar"
  | .secondAnchor => "A node can only have one anchor"
  | .secondTag => "A node can only have one tag"
  | .sequenceEntryInMapping => "Unexpected sequence entry inside a mapping"
  | .tooManyAliasNodes => "Too many nodes expanded from aliases"
  | .truncatedEscapeSequence => "Truncated escape sequence"
  | .truncatedUnicodeEscape => "Truncated unicode escape"
  | .unexpectedCharacter => "Unexpected character"
  | .unexpectedContent => "Unexpected content, check the indentation"
  | .unexpectedEnd => "Unexpected end of input"
  | .unknownAlias name => "Unknown alias '" ++ name ++ "'"
  | .unpairedSurrogate => "Unpaired surrogate"
  | .unterminatedEscape => "Unterminated escape"
  | .unterminatedFlowMapping => "Unterminated flow mapping"
  | .unterminatedFlowSequence => "Unterminated flow sequence"
  | .unterminatedQuoted => "Unterminated quoted scalar"
  | .unterminatedString => "Unterminated string"
  | .unterminatedTag => "Unterminated verbatim tag"

/-- A fault and the byte offset at which it was found. -/
structure SyntaxError where
  offset : Nat
  fault : SyntaxFault
deriving DecidableEq, Repr

/-- The wording with the offset behind it. -/
def SyntaxError.message (e : SyntaxError) : String :=
  e.fault.message ++ " (offset " ++ toString e.offset ++ ")"

/-- The result of reading, or an error. -/
abbrev Reading :=
  Except SyntaxError

/-- Fails at a position. -/
def Cursor.fail {α : Type} (c : Cursor) (fault : SyntaxFault) : Reading α :=
  .error ⟨c.offset, fault⟩

end SpecTrace
