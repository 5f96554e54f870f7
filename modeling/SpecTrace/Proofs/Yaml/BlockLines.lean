import SpecTrace.Proofs.Respelling.Scalars
import SpecTrace.Proofs.Yaml.BlockEntries

/-! The lines of a block scalar: how they are written with their indentation, and how they are
collected again. -/

namespace SpecTrace.Yaml

open Grammar BlockStyle

/-! ### Written lines -/

/-- A line with spaces in front of it; an empty line is left empty. -/
def indentLine (width : Nat) (line : List Char) : List Char :=
  if line = [] then [] else indentation width ++ line

/-- Lines with spaces in front of them, each with a line feed behind it. -/
def writeLines (width : Nat) (lines : List (List Char)) : List Char :=
  lines.flatMap fun line => indentLine width line ++ ['\n']

/-- A line in front of others is written in front of them. -/
theorem writeLines_cons (width : Nat) (line : List Char) (lines : List (List Char)) :
    writeLines width (line :: lines) =
      indentLine width line ++ ('\n' :: writeLines width lines) := by
  simp [writeLines]

/-- Lines behind others are written behind them. -/
theorem writeLines_append (width : Nat) (front back : List (List Char)) :
    writeLines width (front ++ back) = writeLines width front ++ writeLines width back :=
  List.flatMap_append

/-- Lines without breaks in them. -/
def AreLines (lines : List (List Char)) : Prop :=
  ∀ line ∈ lines, ∀ ch ∈ line, isBreak ch = false

/-- A line stays without breaks when it is indented. -/
theorem indentLine_unbroken {width : Nat} {line : List Char}
    (unbroken : ∀ ch ∈ line, isBreak ch = false) :
    ∀ ch ∈ indentLine width line, isBreak ch = false := by
  intro ch member
  -- Only spaces are put in front, and nothing in front of an empty line.
  unfold indentLine at member
  split at member
  · cases member
  · rcases List.mem_append.mp member with space | inside
    · rw [List.eq_of_mem_replicate space]
      rfl
    · exact unbroken ch inside

/-- A line feed is white space. -/
theorem isSpace_feed : IsSpace ['\n'] :=
  fun _ member => .inr (.inr (.inl (List.mem_singleton.mp member)))

/-! ### Collected lines -/

/-- Adds a line that ends at a position: an empty line is counted, any other one is kept. -/
def BlockLines.collect (lines : BlockLines) (line : List Char) (stop : Cursor) : BlockLines :=
  if line = [] then { lines with blanks := lines.blanks + 1 } else lines.push line stop

/-- Lines were collected up to a position. Behind the last one with content there is nothing but
white space. -/
structure Collected (lines : List (List Char)) (found : BlockLines) (c : Cursor) : Prop where
  lines : found.content.reverse ++ List.replicate found.blanks [] = lines
  content : found.content.head? ≠ some []
  space : ∃ space, IsSpace space ∧ found.stop.Passes space c

namespace Collected

variable {lines : List (List Char)} {found : BlockLines} {c d : Cursor}

/-- Before the first line nothing is collected. -/
theorem none {space : List Char} {headerEnd : Cursor} (blank : IsSpace space)
    (passed : headerEnd.Passes space c) : Collected [] ⟨[], 0, headerEnd⟩ c :=
  ⟨rfl, nofun, space, blank, passed⟩

/-- White space behind the lines adds none to them. -/
theorem pass {space : List Char} (collected : Collected lines found c) (blank : IsSpace space)
    (passed : c.Passes space d) : Collected lines found d := by
  obtain ⟨before, isSpace, reached⟩ := collected.space
  exact ⟨collected.lines, collected.content, _, isSpace.append blank, reached.trans passed⟩

/-- One more line is collected behind the others. -/
theorem collect {width : Nat} {line : List Char} (collected : Collected lines found c)
    (passed : c.Passes (indentLine width line) d) :
    Collected (lines ++ [line]) (found.collect line d) d := by
  unfold indentLine at passed
  unfold BlockLines.collect
  -- An empty line is only counted, until a line with content comes behind it.
  by_cases empty : line = []
  · -- Nothing is written for an empty line.
    rw [if_pos empty] at passed ⊢
    rw [passed.eq_of_nil]
    refine ⟨?_, collected.content, collected.space⟩
    rw [← collected.lines, empty, List.append_assoc, List.replicate_succ']
  · -- The lines that were counted stand in front of this one.
    rw [if_neg empty]
    refine ⟨?_, ?_, [], .nil, .refl d⟩
    · rw [← collected.lines]
      simp [BlockLines.push, List.reverse_replicate]
    · intro same
      exact empty (Option.some.inj same)

end Collected

variable {c d next headerEnd : Cursor} {line : List Char} {lines before : List (List Char)}
  {found : BlockLines} {margin width bound column : Nat}

/-- A line is taken up to its end. -/
theorem lineOf_passed {text : List Char} (passed : c.Passes text d)
    (unbroken : ∀ ch ∈ text, isBreak ch = false) (ends : d.rest = [] ∨ d.peek = some '\n') :
    lineOf c.rest = text := by
  -- The line ends where a line feed comes or the text is over.
  have stops : SpecTrace.Stops (fun ch => !isBreak ch) d.rest := by
    intro ch first
    rcases ends with nothing | feed
    · simp [nothing] at first
    · cases Option.some.inj (first.symm.trans feed)
      rfl
  rw [passed.rest]
  exact stops.takeWhile fun ch member => by simp [unbroken ch member]

/-- No marker stands where a line is indented. -/
theorem not_marker_of_indented {text : List Char} (positive : 0 < width)
    (passed : c.Passes (indentation width ++ text) d) : c.atDocumentMarker = false := by
  obtain ⟨width, rfl⟩ := Nat.exists_eq_succ_of_ne_zero (Nat.ne_of_gt positive)
  -- A marker begins with a dash or a point, and an indented line with a space.
  have rest : c.rest = ' ' :: (indentation width ++ text ++ d.rest) := passed.rest
  have neither : ∀ marker : List Char, marker = openingMarker ∨ marker = closingMarker →
      c.startsWith marker = false := by
    rintro marker (rfl | rfl) <;> (rw [Cursor.startsWith, rest]; rfl)
  simp [Cursor.atDocumentMarker, Cursor.atMarker, Cursor.startsWithMarker, neither]

/-- One line is collected, whether it is empty, blank or has content. -/
theorem collectLines_step (bound : Nat) (found : BlockLines) (within : margin ≤ width)
    (positive : 0 < width) (unbroken : ∀ ch ∈ line, isBreak ch = false)
    (passed : c.Passes (indentLine width line) d)
    (ends : d.rest = [] ∨ d.peek = some '\n') (there : c.rest ≠ []) :
    collectLines margin (bound + 1) (some width) found c =
      continueLines (collectLines margin bound (some width)) d (found.collect line d) := by
  -- Up to its break the line is what was passed, and it is collected in one of three ways.
  have taken := lineOf_passed passed (indentLine_unbroken unbroken) ends
  have notEnd : c.atEnd = false := by simpa [Cursor.atEnd] using there
  have lineEnd : c.advance (indentLine width line).length = d := passed.moved.symm
  rw [lineOf] at taken
  unfold collectLines
  simp only [notEnd, Bool.false_eq_true, if_false, taken, lineEnd]
  unfold indentLine at passed ⊢
  unfold BlockLines.collect
  by_cases empty : line = []
  · simp [empty]
  · -- The spaces in front of the line are those of its indentation and its own.
    rw [if_neg empty] at passed
    have spaces : ((indentation width ++ line).takeWhile (· = ' ')).length =
        width + (line.takeWhile (· = ' ')).length := by
      rw [List.takeWhile_append_of_pos (by simp [indentation]), List.length_append, indentation,
        List.length_replicate]
    have length : (indentation width ++ line).length = width + line.length := by
      rw [List.length_append, indentation, List.length_replicate]
    have dropped : (indentation width ++ line).drop width = line :=
      List.drop_left' List.length_replicate
    have long : 0 < line.length := List.length_pos_iff.mpr empty
    have notMarker := not_marker_of_indented positive passed
    simp only [if_neg empty, spaces, length, dropped, Nat.add_left_cancel_iff, Option.getD_some,
      notMarker, Bool.or_false]
    -- A line of spaces alone is longer than its indentation, so it is kept as it is.
    by_cases blank : (line.takeWhile (· = ' ')).length = line.length
    · rw [if_pos blank, blank, if_pos (by omega)]
    · rw [if_neg blank, if_neg]
      simp only [Bool.or_eq_true, decide_eq_true_eq, not_or]
      omega

/-- Behind the line feed of a line the next one is collected. -/
theorem continueLines_feed (more : BlockLines → Cursor → BlockLines) (feed : c.peek = some '\n') :
    continueLines more c found = more found c.next := by
  have skipped : c.skipBreak? = some c.next :=
    Cursor.skipBreak?_of_terminator (.feed _) (.next feed)
  simp only [continueLines, skipped]

/-- Behind the last line of the text nothing is collected. -/
theorem continueLines_end (more : BlockLines → Cursor → BlockLines) (nothing : c.rest = []) :
    continueLines more c found = found := by
  simp only [continueLines, Cursor.skipBreak?_of_end nothing]

/-- Written lines are collected one after the other, with the lines before them. -/
theorem collectLines_writeLines (within : margin ≤ width) (positive : 0 < width)
    (areLines : AreLines lines) (passed : c.Passes (writeLines width lines) d)
    (enough : c.left < bound) (collected : Collected before found c) :
    ∃ others more, collectLines margin bound (some width) found c =
      collectLines margin more (some width) others d ∧ d.left < more ∧
        Collected (before ++ lines) others d := by
  -- By induction on the lines; what was collected before grows by one line at a time.
  induction lines generalizing c bound found before with
  | nil =>
    rw [passed.eq_of_nil, List.append_nil]
    exact ⟨found, bound, rfl, enough, collected⟩
  | cons line lines ih =>
    rw [writeLines_cons] at passed
    obtain ⟨lineEnd, first, behind⟩ := passed.split
    have feed := behind.peek
    have there : c.rest ≠ [] := by
      rw [passed.rest]
      simp
    obtain ⟨bound, rfl⟩ := Nat.exists_eq_succ_of_ne_zero (Nat.ne_of_gt (Nat.zero_lt_of_lt enough))
    have step := collectLines_step bound found within positive
      (areLines line List.mem_cons_self) first (.inr feed) there
    rw [continueLines_feed _ feed] at step
    -- The line and its line feed are no longer left.
    have before := first.left
    have mark := (Cursor.Passes.next feed).left
    rw [List.length_singleton] at mark
    have further : lineEnd.next.left < bound := by omega
    have one := (collected.collect first).pass isSpace_feed (.next feed)
    obtain ⟨others, more, same, fewer, all⟩ :=
      ih (fun line known => areLines line (List.mem_cons_of_mem _ known)) behind.tail further one
    rw [List.append_assoc] at all
    exact ⟨others, more, step.trans same, fewer, all⟩

/-- A line that stands left of the indentation is not collected. -/
theorem collectLines_outdented (passed : c.Passes (indentation column) next)
    (there : next.rest ≠ []) (stops : SpecTrace.Stops inLayout next.rest)
    (left : column < width) :
    collectLines margin bound (some width) found c = found := by
  -- The line has content and fewer spaces than the indentation, and that is where collecting stops.
  cases bound with
  | zero => rfl
  | succ bound =>
    have notEnd : c.atEnd = false := by
      unfold Cursor.atEnd
      rw [passed.rest]
      simpa using fun _ => there
    obtain ⟨first, others, rest⟩ := List.exists_cons_of_ne_nil there
    obtain ⟨notBreak, notInline⟩ := stops_layout stops (by rw [rest]; rfl)
    -- The first other character ends the run of spaces, and it stands left of the indentation.
    have notSpace : first ≠ ' ' := by
      rintro rfl
      cases notInline
    -- Of the line, only the indentation is spaces.
    have line : (c.rest.takeWhile fun ch => !isBreak ch) =
        indentation column ++ first :: others.takeWhile fun ch => !isBreak ch := by
      rw [passed.rest, rest, List.takeWhile_append_of_pos (by simp [indentation, isBreak]),
        List.takeWhile_cons_of_pos (by simp [notBreak])]
    have spaces : ((indentation column ++
        first :: others.takeWhile fun ch => !isBreak ch).takeWhile (· = ' ')).length = column := by
      rw [List.takeWhile_append_of_pos (by simp [indentation]),
        List.takeWhile_cons_of_neg (by simpa using notSpace), List.append_nil, indentation,
        List.length_replicate]
    have longer : column ≠ (indentation column ++
        first :: others.takeWhile fun ch => !isBreak ch).length := by
      rw [List.length_append, indentation, List.length_replicate, List.length_cons]
      omega
    unfold collectLines
    simp only [notEnd, Bool.false_eq_true, if_false, line, spaces, if_neg longer, Option.getD_some,
      left, decide_true, Bool.true_or, if_true]

/-! ### What stands behind the lines -/

/-- The lines of a scalar in a mapping at a column are written, and behind them stands the next key
of the mapping, or the text ends. At the end of the text the last line may lack its line feed. -/
inductive Written (column width : Nat) (lines : List (List Char)) : List Char → Cursor → Prop
  | nextKey {next : Cursor} (there : next.rest ≠ []) (stops : SpecTrace.Stops inLayout next.rest)
    (noMarker : next.atDocumentMarker = false) (noDash : next.atIndicator '-' = false) :
    Written column width lines (writeLines width lines ++ indentation column) next
  | ended {next : Cursor} (nothing : next.rest = []) :
    Written column width lines (writeLines width lines) next
  | unended {next : Cursor} {front : List (List Char)} {last : List Char}
    (nothing : next.rest = []) (split : lines = front ++ [last]) (content : last ≠ []) :
    Written column width lines (writeLines width front ++ indentLine width last) next

/-- Behind the lines no layout goes on. -/
theorem Written.stops {body : List Char} (written : Written column width lines body next) :
    SpecTrace.Stops inLayout next.rest := by
  cases written with
  | nextKey _ stops => exact stops
  | ended nothing => exact stops_of_end nothing
  | unended nothing => exact stops_of_end nothing

/-- What stands behind the lines, if anything, is neither a document marker nor an item. -/
theorem Written.isKey {body : List Char} (written : Written column width lines body next)
    (there : next.rest ≠ []) : next.atDocumentMarker = false ∧ next.atIndicator '-' = false := by
  cases written with
  | nextKey _ _ noMarker noDash => exact ⟨noMarker, noDash⟩
  | ended nothing => exact absurd nothing there
  | unended nothing => exact absurd nothing there

/-- A line feed and the lines behind it end with a line feed. -/
theorem feed_writeLines (width : Nat) (lines : List (List Char)) :
    ∃ front, '\n' :: writeLines width lines = front ++ ['\n'] := by
  -- The last line has its line feed behind it, and without lines the first one is the last.
  rcases List.eq_nil_or_concat lines with rfl | ⟨others, last, rfl⟩
  · exact ⟨[], rfl⟩
  · refine ⟨'\n' :: (writeLines width others ++ indentLine width last), ?_⟩
    rw [List.concat_eq_append, writeLines_append]
    simp [writeLines]

/-- What stands behind the lines, if anything, stands at the column of the mapping. -/
theorem Written.level {body : List Char} (written : Written column width lines body next)
    (there : next.rest ≠ []) (passed : c.Passes ('\n' :: body) next) : next.column = column := by
  cases written with
  | nextKey =>
    -- Every written line ends with a line feed, so the next key is counted from column zero.
    obtain ⟨front, ends⟩ := feed_writeLines width lines
    rw [← List.cons_append, ends] at passed
    obtain ⟨lineStart, before, indented⟩ := passed.split
    rw [column_of_indentation indented, before.column_break rfl, Nat.zero_add]
  | ended nothing => exact absurd nothing there
  | unended nothing => exact absurd nothing there

/-- All written lines are collected, and no more. -/
theorem collectLines_written {body : List Char} (written : Written column width lines body next)
    (within : margin ≤ width) (left : column < width) (areLines : AreLines lines)
    (passed : c.Passes body next) (enough : c.left < bound) (collected : Collected [] found c) :
    Collected lines (collectLines margin bound (some width) found c) next := by
  have positive : 0 < width := Nat.zero_lt_of_lt left
  -- The lines stop at the next key, at the end of the text, or inside a last line.
  cases written with
  | nextKey there stops =>
    obtain ⟨lineStart, all, indented⟩ := passed.split
    obtain ⟨others, more, same, _, collected⟩ :=
      collectLines_writeLines within positive areLines all enough collected
    rw [same, collectLines_outdented indented there stops left]
    exact collected.pass (isSpace_indentation column) indented
  | ended nothing =>
    obtain ⟨others, more, same, _, collected⟩ :=
      collectLines_writeLines within positive areLines passed enough collected
    rw [same, collectLines_end nothing _ _ _ _]
    exact collected
  | @unended _ front last nothing split content =>
    subst split
    obtain ⟨lineStart, all, line⟩ := passed.split
    obtain ⟨others, more, same, fewer, collected⟩ :=
      collectLines_writeLines within positive
        (fun line known => areLines line (List.mem_append_left _ known)) all enough collected
    obtain ⟨more, rfl⟩ := Nat.exists_eq_succ_of_ne_zero (Nat.ne_of_gt (Nat.zero_lt_of_lt fewer))
    have unbroken := areLines last (List.mem_append_right _ List.mem_cons_self)
    have there : lineStart.rest ≠ [] := by
      rw [line.rest, indentLine, if_neg content]
      simp [content]
    rw [same, collectLines_step _ _ within positive unbroken line (.inl nothing) there,
      continueLines_end _ nothing]
    exact collected.collect line

/-! ### Headers -/

/-- Behind a header of marks alone the lines of a block scalar are collected. -/
theorem readBlockScalar_header (bound margin : Nat) {mark : Char} {marks : List Char}
    (header : ∀ ch ∈ marks, isHeaderMark ch = true) (passed : c.Passes (mark :: marks) headerEnd)
    (feed : headerEnd.peek = some '\n') :
    readBlockScalar bound margin c =
      let lines := collectLines margin bound ((indentationOf? marks).map (margin - 1 + ·))
        ⟨[], 0, headerEnd⟩ headerEnd.next
      .ok (.scalar (.string (String.ofList (blockText (mark = '>') (chompingOf marks) lines)))
        ⟨c.offset, lines.stop.offset⟩, lines.stop) := by
  have behind := passed.tail
  -- The marks are the whole run of header marks, since a line feed is none.
  have cut : c.next.rest.takeWhile isHeaderMark = marks := by
    rw [behind.rest, Cursor.rest_of_peek feed]
    exact Stops.takeWhile (fun ch first => by cases first; rfl) header
  have moved : c.next.advance marks.length = headerEnd := behind.moved.symm
  -- The line ends right behind the marks.
  have spaced : headerEnd.skipInlineSpace = headerEnd :=
    (Cursor.Passes.refl headerEnd).skipWhile nofun fun ch first => by
      cases Option.some.inj (feed.symm.trans first)
      rfl
  have broken : headerEnd.skipBreak = headerEnd.next := by
    rw [Cursor.skipBreak, Cursor.skipBreak?_of_terminator (.feed _) (.next feed)]
    rfl
  have atBreak : headerEnd.atBreak = true := by
    rw [Cursor.atBreak, feed]
    rfl
  unfold readBlockScalar
  simp only [cut, moved, spaced, broken, atBreak, Nat.lt_irrefl, and_false, if_false,
    Bool.not_true, Bool.and_false, Bool.false_eq_true, passed.peek, Option.some.injEq]

/-- Blanks are white space on one line. -/
theorem isSpace_of_inline {blanks : List Char} (blank : ∀ ch ∈ blanks, isInlineSpace ch = true) :
    IsSpace blanks ∧ blanks.any isBreak = false := by
  -- Blanks on a line are spaces and tabs, and neither of these is a break.
  have inline : ∀ ch ∈ blanks, ch = ' ' ∨ ch = '\t' := by
    intro ch member
    have known := blank ch member
    simp only [isInlineSpace, Bool.or_eq_true, decide_eq_true_eq] at known
    exact known
  constructor
  · exact fun ch member => (inline ch member).imp_right .inl
  · rw [List.any_eq_false]
    intro ch member
    rcases inline ch member with rfl | rfl <;> exact Bool.false_ne_true

/-- Neither mark of a block scalar begins anything else, but a node opens there. -/
theorem opens_of_blockMark {mark : Char} (isMark : mark = '|' ∨ mark = '>')
    (there : c.peek = some mark) : Opens c := by
  -- The two marks are characters that no other construct begins with.
  have rest := Cursor.rest_of_peek there
  have notEnd : c.atEnd = false := by
    rw [Cursor.atEnd, rest]
    rfl
  have noMarker : c.atDocumentMarker = false := by
    -- Neither marker begins with the mark of a block scalar.
    have neither : ∀ marker : List Char, marker = openingMarker ∨ marker = closingMarker →
        c.startsWith marker = false := by
      rintro marker (rfl | rfl) <;> rcases isMark with rfl | rfl <;>
        (rw [Cursor.startsWith, rest]; rfl)
    simp [Cursor.atDocumentMarker, Cursor.atMarker, Cursor.startsWithMarker, neither]
  refine ⟨?_, notEnd, fun other known same => ?_, noMarker⟩
  · intro ch first
    cases Option.some.inj (first.symm.trans there)
    rcases isMark with rfl | rfl <;> rfl
  · cases Option.some.inj (there.symm.trans same)
    rcases isMark with rfl | rfl <;> simp at known

/-- A block scalar may stand behind blanks on the line of its key. -/
theorem readBlockNode_blockScalar {document blanks : List Char} {s : State} {mark : Char}
    {node : Node} {after : Cursor} {room : Nat} (isMark : mark = '|' ∨ mark = '>')
    (blank : ∀ ch ∈ blanks, isInlineSpace ch = true) (spaced : s.cursor.Passes blanks c)
    (there : c.peek = some mark)
    (read : readBlockScalar document.length margin c = .ok (node, after)) :
    readBlockNode document (room + 1) margin .value s = .ok (node, s.moveTo after) := by
  obtain ⟨isSpace, crossed⟩ := isSpace_of_inline blank
  have opens := opens_of_blockMark isMark there
  -- What tells other block nodes apart is looked for first.
  have noIndicator : ∀ indicator, indicator ≠ '|' → indicator ≠ '>' →
      c.atIndicator indicator = false := by
    intro indicator notLiteral notFolded
    rw [Cursor.atIndicator, there]
    rcases isMark with rfl | rfl <;> simp [Ne.symm notLiteral, Ne.symm notFolded]
  rw [readBlockNode_opens spaced isSpace opens, crossed]
  unfold readBlockContent
  have cursor : (s.moveTo c).cursor = c := rfl
  simp only [cursor, opens.there, opens.notMarker, noIndicator '-' (by decide) (by decide),
    noIndicator '?' (by decide) (by decide), Bool.or_false, Bool.false_and, Bool.false_eq_true,
    if_false]
  rcases isMark with rfl | rfl <;> simp only [there, read, bind, Except.bind] <;> rfl

end SpecTrace.Yaml
