import SpecTrace.Host.Host
import SpecTrace.Path.Name

/-! URLs as far as they lead to files: schemes, hosts and paths. -/

namespace SpecTrace

/-- A parsed URL without its user, port, query and fragment. -/
structure Url where
  /-- The scheme in lower case. -/
  scheme : List Char
  /-- The host, if there is one. -/
  host : Option (List Char)
  /-- The path; one that does not start with a slash has no segments. -/
  path : List Char
deriving DecidableEq, Repr

namespace Url

/-- How the rest of a URL is read. -/
inductive SchemeKind where
  | file
  | special
  | other
deriving DecidableEq, Repr

/-- The kind of a scheme. -/
def schemeKind (scheme : List Char) : SchemeKind :=
  if scheme = "file".toList then .file
  else if scheme ∈ ["http", "https", "ws", "wss", "ftp"].map String.toList then .special
  else .other

/-- A backslash counts as a slash. -/
def SchemeKind.isSpecial (kind : SchemeKind) : Bool :=
  kind ≠ .other

/-- A tab or a line break; URLs are read as if it were not there. -/
def isSkipped (c : Char) : Bool :=
  c = '\t' || c = '\n' || c = '\r'

/-- The text without spaces and control characters around it. -/
def trimmed (text : List Char) : List Char :=
  let isControl (c : Char) : Bool := c.toNat ≤ 0x20
  ((text.dropWhile isControl).reverse.dropWhile isControl).reverse

/-- The text without spaces and control characters around it and without any tab or line break. -/
def prepared (text : List Char) : List Char :=
  (trimmed text).filter (!isSkipped ·)

/-- For each tab and line break, the number of characters of the prepared text behind it. -/
def gapsIn : List Char → List Nat
  | [] => []
  | c :: rest =>
    if isSkipped c then (rest.filter (!isSkipped ·)).length :: gapsIn rest else gapsIn rest

/-- A scheme in lower case, and what follows the colon behind it. -/
def splitScheme? (text : List Char) : Option (List Char × List Char) :=
  let isSchemeChar (c : Char) : Bool := c.isAlphanum || c = '+' || c = '-' || c = '.'
  let scheme := text.takeWhile isSchemeChar
  match text.head?, text.drop scheme.length with
  | some first, ':' :: rest => if first.isAlpha then some (scheme.map Char.toLower, rest) else none
  | _, _ => none

/-- A character that ends the authority part. -/
def endsAuthority (kind : SchemeKind) (c : Char) : Bool :=
  c = '/' || c = '?' || c = '#' || (kind.isSpecial && c = '\\')

/-! ### Drive letters -/

/-- A letter with a colon or a bar behind it. -/
def isDriveLetter : List Char → Bool
  | [letter, mark] => letter.isAlpha && (mark = ':' || mark = '|')
  | _ => false

/-- A letter with a colon behind it. -/
def isNormalDriveLetter (text : List Char) : Bool :=
  isDriveLetter text && text.getLast? = some ':'

/-- A drive letter, alone or with a separator behind it. -/
def startsWithDriveLetter (text : List Char) : Bool :=
  isDriveLetter (text.take 2) &&
    (text.drop 2).head?.all fun c => c = '/' || c = '\\' || c = '?' || c = '#'

/-- A separator with a drive letter behind it. -/
def startsWithDriveSegment : List Char → Bool
  | c :: rest => (c = '/' || c = '\\' || c = '?' || c = '#') && startsWithDriveLetter rest
  | [] => false

/-! ### Paths -/

/-- Where reading a path segment ended. -/
structure SegmentEnd where
  /-- The path with the segment. -/
  path : List Char
  /-- Where the segment starts in the path. -/
  start : Nat
  /-- The segment ended with a slash. -/
  slash : Bool
  rest : List Char

/-- Reads a segment that starts at an index of the path. A gap stands before each character that
starts a segment or follows a tab or a line break; `gaps` counts what is left behind those. -/
def readSegment (kind : SchemeKind) (gaps : List Nat) :
    (gap : Bool) → (path : List Char) → (start : Nat) → List Char → SegmentEnd
  | _, path, start, [] => ⟨path, start, false, []⟩
  | gap, path, start, c :: rest =>
    let next := gaps.contains rest.length
    if c = '/' ∨ (c = '\\' ∧ kind.isSpecial) then ⟨path ++ ['/'], start, true, rest⟩
    else if c = '?' ∨ c = '#' then ⟨path, start, false, c :: rest⟩
    else if gap ∧ kind = .file ∧ path ≠ [] ∧ isNormalDriveLetter path.tail then
      -- A drive letter before a gap is a segment of its own.
      readSegment kind gaps next (path ++ ['/', c]) (start + 1) rest
    else readSegment kind gaps next (path ++ [c]) start rest

/-- The index of the last slash. -/
def lastSlash? (path : List Char) : Option Nat :=
  let behind := (path.reverse.takeWhile (· ≠ '/')).length
  if behind < path.length then some (path.length - 1 - behind) else none

/-- The path without its last segment; a drive letter stays. -/
def popSegment (kind : SchemeKind) (path : List Char) : List Char :=
  match lastSlash? path with
  | some i =>
    if kind = .file ∧ isNormalDriveLetter (path.drop (i + 1)) then path else path.take (i + 1)
  | none => path

/-- The path without the slash at its end, unless that is the first one or follows a drive
letter. -/
def dropLastSlash (path : List Char) : List Char :=
  if path.getLast? = some '/' then
    match lastSlash? path.dropLast with
    | some i => if startsWithDriveSegment (path.drop i) then path else path.dropLast
    | none => path
  else path

/-- The text in lower case with encoded dots decoded. -/
def plainDots : List Char → List Char
  | '%' :: '2' :: e :: rest =>
    if e = 'e' ∨ e = 'E' then '.' :: plainDots rest else '%' :: '2' :: e :: rest
  | '.' :: rest => '.' :: plainDots rest
  | rest => rest

/-- Closes a segment: dots move within the path, and a drive letter takes the place of a host.
`afterSlash` says that a slash comes before an empty path. Also says whether a drive letter was
closed. -/
def closeSegment (kind : SchemeKind) (afterSlash : Bool) (e : SegmentEnd) : List Char × Bool :=
  let content := e.path.drop e.start
  let segment := if e.slash then content.dropLast else content
  let endsWithSlash (path : List Char) : Bool :=
    if path.isEmpty then afterSlash else path.getLast? = some '/'
  let slashed (path : List Char) : List Char :=
    if endsWithSlash path then path else path ++ ['/']
  let before := e.path.take e.start
  if plainDots segment = ['.', '.'] then
    let path := popSegment kind (dropLastSlash before)
    (if e.slash then slashed path else path, false)
  else if plainDots segment = ['.'] then (slashed before, false)
  else if kind = .file ∧ e.start = 1 ∧ isDriveLetter segment then
    (before ++ segment.take 1 ++ [':'] ++ (if e.slash then ['/'] else []), true)
  else (e.path, false)

/-- Reads segments onto a path until a segment ends without a slash. Also says whether a drive
letter was closed on the way. -/
def readSegments (kind : SchemeKind) (gaps : List Nat) (afterSlash : Bool) :
    Nat → (drive : Bool) → (path input : List Char) → List Char × Bool
  | 0, drive, path, _ => (path, drive)
  | bound + 1, drive, path, input =>
    let e := readSegment kind gaps true path path.length input
    let (path, closed) := closeSegment kind afterSlash e
    if e.slash then readSegments kind gaps afterSlash bound (drive || closed) path e.rest
    else (path, drive || closed)

/-- Reads a path onto the beginning of one. -/
def readPath (kind : SchemeKind) (gaps : List Nat) (afterSlash : Bool) (path input : List Char) :
    List Char × Bool :=
  let (path, drive) := readSegments kind gaps afterSlash (input.length + 1) false path input
  (if kind = .file then '/' :: path.dropWhile (· = '/') else path, drive)

/-! ### Authority parts -/

/-- Splits a host from what follows it; a colon inside brackets belongs to the host. -/
def splitHost (kind : SchemeKind) : (inBrackets : Bool) → List Char → List Char × List Char
  | _, [] => ([], [])
  | inBrackets, c :: rest =>
    if (c = ':' ∧ !inBrackets) ∨ endsAuthority kind c then ([], c :: rest)
    else
      let (host, after) := splitHost kind ((inBrackets || c = '[') && c ≠ ']') rest
      (c :: host, after)

/-- The text behind a port, if what follows a host is well formed. -/
def skipPort? : List Char → Option (List Char)
  | ':' :: rest =>
    let digits := rest.takeWhile Char.isDigit
    let after := rest.drop digits.length
    let small := digits.isEmpty || (readDigits? 10 0 digits).any (· < Nat.pow 2 16)
    let closed := after.head?.all fun c => c = '/' || c = '\\' || c = '?' || c = '#'
    if small && closed then some after else none
  | rest => some rest

/-- The text behind the last at sign of the authority part, and whether a user is named; none if
nothing but a user is given. -/
def skipUser? (kind : SchemeKind) (text : List Char) : Option (List Char × Bool) :=
  let authority := text.takeWhile fun c => !endsAuthority kind c
  if authority.contains '@' then
    let behind := (authority.reverse.takeWhile (· ≠ '@')).length
    let user := authority.take (authority.length - behind - 1)
    let rest := text.drop (authority.length - behind)
    if user.isEmpty && behind = 0 && !rest.isEmpty then none
    else some (rest, !user.isEmpty && user ≠ [':'])
  else some (text, false)

/-! ### Whole URLs -/

/-- The path behind an authority part; `bare` says that nothing is in that part. -/
def pathAfterHost (kind : SchemeKind) (gaps : List Nat) (bare : Bool) (text : List Char) :
    List Char × Bool :=
  if kind.isSpecial then
    let slash := text.head? = some '/' ∨ text.head? = some '\\'
    readPath kind gaps false ['/'] (if slash then text.tail else text)
  else if text.head? = some '?' ∨ text.head? = some '#' then ([], false)
  else readPath kind gaps bare [] text

/-- A URL whose authority part starts here. -/
def parseAuthority? (kind : SchemeKind) (gaps : List Nat) (scheme text : List Char) :
    Option Url := do
  let (text, hasUser) ← skipUser? kind text
  let (hostText, rest) := splitHost kind false text
  if hostText.isEmpty && (kind = .special || hasUser || rest.head? = some ':') then none
  else
    let host ← Host.ofText? kind.isSpecial hostText
    let rest ← skipPort? rest
    let path := (pathAfterHost kind gaps (host.isEmpty && !hasUser) rest).1
    some ⟨scheme, if host.isEmpty then none else some host, path⟩

/-- A file URL whose host starts here. Without a host, the path is read behind a slash of its own,
so that its first segment is not at the beginning. -/
def parseFileHost? (gaps : List Nat) (text : List Char) : Option Url := do
  let file := "file".toList
  let hostText := text.takeWhile fun c => !endsAuthority .file c
  let rest := text.drop hostText.length
  let onThisMachine (input : List Char) : Url :=
    ⟨file, none, (readPath .file gaps false ['/'] input).1⟩
  if isDriveLetter hostText then some (onThisMachine text)
  else if hostText.isEmpty then some (onThisMachine rest)
  else
    let host ← Host.ofText? true hostText
    if host = "localhost".toList then some (onThisMachine rest)
    else
      let (path, drive) := pathAfterHost .file gaps false rest
      some ⟨file, if drive then none else some host, path⟩

/-- The first segment of a path. -/
def firstSegment (path : List Char) : List Char :=
  path.tail.takeWhile (· ≠ '/')

/-- A file URL behind its scheme, relative to the path of another one if that is given. -/
def parseFile? (gaps : List Nat) (base : Option (List Char)) (text : List Char) : Option Url :=
  let file := "file".toList
  let isSlash (c : Option Char) : Bool := c = some '/' || c = some '\\'
  if isSlash text.head? then
    if isSlash text.tail.head? then parseFileHost? gaps text.tail.tail
    else
      -- A path from the root keeps the drive letter of the base.
      let drive := (base.map firstSegment).getD []
      let beginning :=
        if isNormalDriveLetter drive && !startsWithDriveLetter text.tail then '/' :: drive else []
      some ⟨file, none, (readPath .file gaps true beginning text).1⟩
  else
    match base with
    | none => some ⟨file, none, (readPath .file gaps true ['/'] text).1⟩
    | some base =>
      match text.head? with
      | none => some ⟨file, none, base⟩
      | some c =>
        if c = '?' ∨ c = '#' then some ⟨file, none, base⟩
        else if startsWithDriveLetter text then
          some ⟨file, none, (readPath .file gaps true ['/'] text).1⟩
        else some ⟨file, none, (readPath .file gaps true (popSegment .file base) text).1⟩

/-- A URL behind its scheme. -/
def parseWithScheme? (gaps : List Nat) (scheme text : List Char) : Option Url :=
  match schemeKind scheme with
  | .file => parseFile? gaps none text
  | .special =>
    parseAuthority? .special gaps scheme (text.dropWhile fun c => c = '/' || c = '\\')
  | .other =>
    match text with
    | '/' :: '/' :: rest => parseAuthority? .other gaps scheme rest
    | '/' :: rest => some ⟨scheme, none, (readPath .other gaps false ['/'] rest).1⟩
    | rest => some ⟨scheme, none, rest⟩

/-- The absolute URL that a text spells. -/
def parse? (text : List Char) : Option Url := do
  let (scheme, rest) ← splitScheme? (prepared text)
  parseWithScheme? (gapsIn (trimmed text)) scheme rest

/-- The URL that a text spells relative to the path of a file. -/
def join? (base : List Char) (text : List Char) : Option Url :=
  let gaps := gapsIn (trimmed text)
  let text := prepared text
  match splitScheme? text with
  | some (scheme, rest) =>
    if schemeKind scheme = .file then parseFile? gaps (some base) rest
    else parseWithScheme? gaps scheme rest
  | none => parseFile? gaps (some base) text

/-! ### Files -/

/-- A character that is percent-encoded in a segment of a file URL. -/
def isEncodedInSegment (c : Char) : Bool :=
  c.toNat < 0x20 || c = '\x7f' || " \"<>\x60#?\x7b\x7d/%\\".toList.contains c

/-- The path of the URL of a file; none for a path text that is not absolute. -/
def ofFile? (path : String) : Option (List Char) :=
  match pathComponents path with
  | .root :: names =>
    let segment (name : PathComponent) : List Char :=
      '/' :: Percent.encode isEncodedInSegment name.text.toList
    some (if names.isEmpty then ['/'] else names.flatMap segment)
  | _ => none

/-- Splits bytes at every slash. -/
def splitBytes : List UInt8 → List (List UInt8)
  | [] => [[]]
  | b :: rest =>
    if b = 47 then [] :: splitBytes rest
    else
      match splitBytes rest with
      | [] => [[b]]
      | part :: parts => (b :: part) :: parts

/-- The path of the file that a URL leads to, on this machine and behind no opaque path. -/
def toFile? (url : Url) : Option (List PathName) :=
  if url.host.all (· = "localhost".toList) then
    match url.path with
    | '/' :: rest =>
      let bytes := Percent.decode rest
      -- A drive letter at the end is a directory.
      let endsInDrive := isDriveLetter (((Utf8.encode ['/'] ++ bytes).reverse.take 2).reverse.map
        fun b => Char.ofNat b.toNat)
      some ((splitBytes (if endsInDrive then bytes ++ [47] else bytes)).map PathName.ofBytes)
    | _ => none
  else none

end Url

end SpecTrace
