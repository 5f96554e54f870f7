/-! Glob patterns for paths, read part by part. -/

namespace SpecTrace

/-- A part of a pattern. -/
inductive GlobPart where
  | literal (c : Char)
  /-- One byte other than a slash. -/
  | anyByte
  /-- Any bytes without a slash. -/
  | anyName
  /-- Any directories at the beginning of a path, with the slash behind them. -/
  | leadingDirs
  /-- A slash and everything behind it. -/
  | trailingDirs
  /-- A slash, or any directories between two slashes. -/
  | innerDirs
  /-- One byte of a class that ranges of characters make, or one outside it. -/
  | byteClass (negated : Bool) (ranges : List (Char × Char))
  /-- One of several patterns; none means nothing at all. -/
  | alternatives (choices : List (List GlobPart))
deriving Repr

/-- Why a pattern is malformed. -/
inductive GlobFault where
  | danglingEscape
  | invalidRange (low high : Char)
  | unclosedClass
  | unclosedGroup
  | unopenedGroup
deriving DecidableEq, Repr

/-- A group of alternatives that is still open. -/
structure OpenGroup where
  /-- The parts in front of the group, in reverse. -/
  before : List GlobPart
  /-- The alternatives that are complete, in reverse. -/
  complete : List (List GlobPart)

/-- What has been read of a pattern. -/
structure GlobReading where
  /-- The parts of the innermost pattern, in reverse. -/
  parts : List GlobPart
  /-- The groups around it, from the inside out. -/
  groups : List OpenGroup
  /-- The last character. -/
  previous : Option Char

namespace GlobReading

/-- Nothing has been read. -/
def start : GlobReading := ⟨[], [], none⟩

/-- One more part, which ends with the given character. -/
def push (reading : GlobReading) (part : GlobPart) (last : Char) : GlobReading :=
  { reading with parts := part :: reading.parts, previous := some last }

/-- Opens a group. -/
def openGroup (reading : GlobReading) : GlobReading :=
  ⟨[], ⟨reading.parts, []⟩ :: reading.groups, some '\x7b'⟩

/-- A comma starts another alternative; outside of groups it stands for itself. -/
def comma (reading : GlobReading) : GlobReading :=
  match reading.groups with
  | [] => reading.push (.literal ',') ','
  | group :: outer =>
    ⟨[], { group with complete := reading.parts.reverse :: group.complete } :: outer, some ','⟩

/-- The parts match nothing but the empty text. -/
def isVoid (parts : List GlobPart) : Bool :=
  parts.all fun
    | .alternatives [] => true
    | _ => false

/-- Closes the innermost group; alternatives without content are dropped. -/
def closeGroup (reading : GlobReading) : Except GlobFault GlobReading :=
  match reading.groups with
  | [] => .error .unopenedGroup
  | group :: outer =>
    let choices := (reading.parts.reverse :: group.complete).reverse
    let group' := GlobPart.alternatives (choices.filter fun parts => !isVoid parts)
    .ok ⟨group' :: group.before, outer, some '\x7d'⟩

/-- Two stars that stand for no more than one. -/
def pushStars (reading : GlobReading) : GlobReading :=
  (reading.push .anyName '*').push .anyName '*'

/-- Replaces the slash in front of two stars; stars behind other stars add nothing to them. -/
def replaceSlash (reading : GlobReading) (part : GlobPart) (last : Char) : GlobReading :=
  match reading.parts with
  | .leadingDirs :: _ => { reading with previous := some last }
  | .trailingDirs :: _ => { reading with previous := some last }
  | _ :: before => { reading with parts := part :: before, previous := some last }
  | [] => reading.push part last

/-- Two stars in front of the given characters, and what is left of them. A slash that belongs to
the stars is taken with them. -/
def twoStars (reading : GlobReading) (rest : List Char) : GlobReading × List Char :=
  let inGroup := !reading.groups.isEmpty
  let separated :=
    reading.previous = some '/' ||
      (inGroup && (reading.previous = some ',' || reading.previous = some '\x7b'))
  if reading.parts.isEmpty then
    match rest with
    | [] => (reading.push .leadingDirs '*', [])
    | '/' :: rest => (reading.push .leadingDirs '/', rest)
    | _ => (reading.pushStars, rest)
  else if !separated then (reading.pushStars, rest)
  else
    match rest with
    | [] => (reading.replaceSlash .trailingDirs '*', [])
    | '/' :: rest => (reading.replaceSlash .innerDirs '/', rest)
    | c :: _ =>
      if inGroup && (c = ',' || c = '\x7d') then (reading.replaceSlash .trailingDirs '*', rest)
      else (reading.pushStars, rest)

end GlobReading

/-- Reads the members of a class up to the closing bracket. `ranges` has the ranges so far in
reverse; after a dash the last one is open. -/
def readClass : (first inRange : Bool) → (ranges : List (Char × Char)) → List Char →
    Except GlobFault (List (Char × Char) × List Char)
  | _, _, _, [] => .error .unclosedClass
  | first, inRange, ranges, c :: rest =>
    if c = ']' ∧ first = false then
      .ok ((if inRange then ('-', '-') :: ranges else ranges).reverse, rest)
    else if c = '-' ∧ first = false ∧ inRange = false then readClass false true ranges rest
    else
      match inRange, ranges with
      | true, (low, _) :: others =>
        if c < low then .error (.invalidRange low c)
        else readClass false false ((low, c) :: others) rest
      | _, _ => readClass false false ((c, c) :: ranges) rest

/-- Reads a class behind its opening bracket. -/
def readGlobClass (text : List Char) : Except GlobFault (GlobPart × List Char) :=
  let negated := text.head? = some '!' || text.head? = some '^'
  match readClass true false [] (if negated then text.tail else text) with
  | .ok (ranges, rest) => .ok (.byteClass negated ranges, rest)
  | .error fault => .error fault

/-- Reads a pattern to its end. A bound on the characters left drives the recursion. -/
def readGlob : Nat → GlobReading → List Char → Except GlobFault GlobReading
  | 0, reading, _ => .ok reading
  | _ + 1, reading, [] => .ok reading
  | bound + 1, reading, c :: rest =>
    match c with
    | '?' => readGlob bound (reading.push .anyByte c) rest
    | '*' =>
      if rest.head? = some '*' then
        let (reading, rest) := reading.twoStars rest.tail
        readGlob bound reading rest
      else readGlob bound (reading.push .anyName c) rest
    | '[' => do
      let (part, rest) ← readGlobClass rest
      readGlob bound (reading.push part ']') rest
    | '\x7b' => readGlob bound reading.openGroup rest
    | '\x7d' => do readGlob bound (← reading.closeGroup) rest
    | ',' => readGlob bound reading.comma rest
    | '\\' =>
      match rest with
      | [] => .error .danglingEscape
      | escaped :: rest => readGlob bound (reading.push (.literal escaped) escaped) rest
    | _ => readGlob bound (reading.push (.literal c) c) rest

/-- A pattern for paths. -/
structure Glob where
  parts : List GlobPart
deriving Repr

/-- Reads a pattern. -/
def Glob.parse (text : String) : Except GlobFault Glob := do
  let chars := text.toList
  let reading ← readGlob chars.length .start chars
  if reading.groups.isEmpty then .ok ⟨reading.parts.reverse⟩ else .error .unclosedGroup

end SpecTrace
