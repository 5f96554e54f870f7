import SpecTrace.Document.Format
import SpecTrace.Proofs.Yaml.BlockLines
import SpecTrace.Proofs.Yaml.Scalars

/-! Any text can be written as a literal block scalar in a block mapping, and is read back. -/

namespace SpecTrace.Yaml

open Grammar BlockStyle

/-! ### The lines of a text -/

/-- The lines of a text. A line feed ends each of them, but it may be missing behind the last. -/
def textLines : List Char → List (List Char)
  | [] => []
  | c :: rest =>
    if c = '\n' then [] :: textLines rest
    else
      match textLines rest with
      | [] => [[c]]
      | line :: more => (c :: line) :: more

/-- A text with a line feed behind its last line. -/
def endLine (text : List Char) : List Char :=
  if text = [] ∨ text.getLast? = some '\n' then text else text ++ ['\n']

/-- Only the empty text has no lines. -/
theorem textLines_eq_nil {text : List Char} : textLines text = [] ↔ text = [] := by
  cases text with
  | nil => exact iff_of_true rfl rfl
  | cons c rest =>
    simp only [reduceCtorEq, iff_false]
    -- A first character begins a line, or ends one.
    unfold textLines
    split
    · exact List.cons_ne_nil _ _
    · split <;> exact List.cons_ne_nil _ _

/-- In front of other characters one more leaves the end of a text as it is. -/
theorem endLine_cons {rest : List Char} (c : Char) (more : rest ≠ []) :
    endLine (c :: rest) = c :: endLine rest := by
  -- The last character is the same, and only that one is looked at.
  have last : (c :: rest).getLast? = rest.getLast? := by
    rw [List.getLast?_cons, List.getLast?_eq_some_getLast more]
    rfl
  unfold endLine
  simp only [last, more, reduceCtorEq, false_or]
  split <;> rfl

/-- The lines of a text with their line feeds are the text. -/
theorem flatMap_textLines (text : List Char) :
    ((textLines text).flatMap fun line => line ++ ['\n']) = endLine text := by
  induction text with
  | nil => rfl
  | cons c rest ih =>
    unfold textLines
    split
    · -- The line feed ends an empty line.
      rename_i feed
      rw [feed, List.flatMap_cons, ih]
      by_cases more : rest = []
      · rw [more]
        rfl
      · rw [endLine_cons _ more]
        rfl
    · rename_i other
      split
      · rename_i nothing
        rw [textLines_eq_nil.mp nothing]
        simp [endLine, other]
      · -- The character comes in front of the first line of the others.
        rename_i line more same
        have nonempty : rest ≠ [] := by
          intro empty
          rw [textLines_eq_nil.mpr empty] at same
          cases same
        rw [endLine_cons _ nonempty, ← ih, same, List.flatMap_cons, List.flatMap_cons]
        rfl

/-- The characters of a line are those of the text, without line feeds. -/
theorem mem_textLines {text line : List Char} (known : line ∈ textLines text) :
    ∀ ch ∈ line, ch ∈ text ∧ ch ≠ '\n' := by
  induction text generalizing line with
  | nil => cases known
  | cons c rest ih =>
    -- The lines of the others may come with the first character in front, or with an empty line.
    have others : ∀ {line}, line ∈ textLines rest → ∀ ch ∈ line, ch ∈ c :: rest ∧ ch ≠ '\n' :=
      fun known ch member => (ih known ch member).imp_left (List.mem_cons_of_mem c)
    unfold textLines at known
    split at known
    · rcases List.mem_cons.mp known with rfl | known
      · nofun
      · exact others known
    · rename_i other
      have one : c ∈ c :: rest ∧ c ≠ '\n' := ⟨List.mem_cons_self, other⟩
      split at known
      · cases List.mem_singleton.mp known
        intro ch member
        cases List.mem_singleton.mp member
        exact one
      · rename_i first more same
        rcases List.mem_cons.mp known with rfl | known
        · have inside := others (same ▸ List.mem_cons_self)
          exact List.forall_mem_cons.mpr ⟨one, inside⟩
        · exact others (same ▸ List.mem_cons_of_mem _ known)

/-- Without carriage returns, the lines of a text have no breaks in them. -/
theorem areLines_textLines {text : List Char} (noReturn : '\r' ∉ text) :
    AreLines (textLines text) := by
  intro line known ch member
  obtain ⟨inside, notFeed⟩ := mem_textLines known ch member
  have notReturn : ch ≠ '\r' := ne_of_mem_of_not_mem inside noReturn
  simp [isBreak, notFeed, notReturn]

/-! ### Headers -/

/-- The text is nothing but line feeds. -/
def onlyFeeds (text : List Char) : Bool :=
  text.all fun ch => ch = '\n'

/-- The mark in a header that keeps the line feeds at the end of a text: `-` if there is none, no
mark if there is one behind other characters, and `+` otherwise. -/
def chompMark (text : List Char) : List Char :=
  if text.getLast? ≠ some '\n' then ['-']
  else if text.dropLast.getLast? = some '\n' ∨ onlyFeeds text then ['+']
  else []

/-- The header of a literal scalar whose lines are indented by some spaces more than the mapping
around it. -/
def markedHeader (spaces : Nat) (text : List Char) : List Char :=
  '|' :: Nat.digitChar spaces :: chompMark text

/-- A single digit but zero is a mark of a header, and no sign. -/
theorem digitChar_mark : ∀ spaces < 10, 0 < spaces →
    isHeaderMark (Nat.digitChar spaces) = true ∧ (Nat.digitChar spaces).isDigit = true ∧
      (Nat.digitChar spaces).toNat - '0'.toNat = spaces ∧
      Nat.digitChar spaces ≠ '+' ∧ Nat.digitChar spaces ≠ '-' := by
  decide

variable {text : List Char} {spaces : Nat}

/-- There are three ways to mark a header. -/
theorem chompMark_cases (text : List Char) :
    chompMark text = ['-'] ∨ chompMark text = [] ∨ chompMark text = ['+'] := by
  -- The mark depends on how many line feeds stand at the end.
  unfold chompMark
  split
  · exact .inl rfl
  · split
    · exact .inr (.inr rfl)
    · exact .inr (.inl rfl)

/-- All of a header behind its indicator is marks. -/
theorem markedHeader_marks (text : List Char) (positive : 0 < spaces) (small : spaces < 10) :
    ∀ ch ∈ Nat.digitChar spaces :: chompMark text, isHeaderMark ch = true := by
  obtain ⟨mark, _⟩ := digitChar_mark spaces small positive
  refine List.forall_mem_cons.mpr ⟨mark, ?_⟩
  rcases chompMark_cases text with same | same | same <;> simp [same, isHeaderMark]

/-- A header says how many spaces its lines are indented by. -/
theorem indentationOf?_markedHeader (positive : 0 < spaces) (small : spaces < 10) :
    indentationOf? (Nat.digitChar spaces :: chompMark text) = some spaces := by
  -- The digit is the only one among the marks.
  obtain ⟨_, digit, value, _⟩ := digitChar_mark spaces small positive
  -- No other mark is a digit.
  have others : (chompMark text).filter Char.isDigit = [] := by
    rcases chompMark_cases text with same | same | same <;> rw [same] <;> rfl
  simp only [indentationOf?, List.filter_cons_of_pos digit, others, List.getLast?_singleton,
    Option.map_some, value]

/-- The digit of a header leaves its chomping to the other mark. -/
theorem chompingOf_markedHeader (positive : 0 < spaces) (small : spaces < 10) :
    chompingOf (Nat.digitChar spaces :: chompMark text) = chompingOf (chompMark text) := by
  obtain ⟨_, _, _, notPlus, notMinus⟩ := digitChar_mark spaces small positive
  unfold chompingOf
  rw [List.filter_cons_of_neg (by simp [notPlus, notMinus])]

/-! ### The value -/

/-- Lines with line feeds between them and one more behind them have one behind each of them. -/
theorem intercalate_append_feed {lines : List (List Char)} (filled : lines ≠ []) :
    ['\n'].intercalate lines ++ ['\n'] = lines.flatMap fun line => line ++ ['\n'] := by
  -- By induction on the lines; the last one is a case by itself, since nothing is put between it
  -- and others.
  induction lines with
  | nil => exact absurd rfl filled
  | cons line rest ih =>
    cases rest with
    | nil => simp [List.intercalate]
    | cons second more =>
      have others := ih (List.cons_ne_nil _ _)
      rw [List.flatMap_cons, ← others]
      simp [List.intercalate]

/-- Empty lines are their line feeds. -/
theorem flatMap_replicate_nil (count : Nat) :
    ((List.replicate count []).flatMap fun line => line ++ ['\n']) = List.replicate count '\n' := by
  simp [List.flatMap_replicate]

variable {found : BlockLines} {c next : Cursor}

/-- Lines with content, joined, and the line feeds behind them are the text whose lines they
are. -/
theorem Collected.joined (collected : Collected (textLines text) found c)
    (filled : found.content ≠ []) :
    endLine text =
      ['\n'].intercalate found.content.reverse ++ List.replicate (found.blanks + 1) '\n' := by
  -- The text is its lines with a feed behind each, and those at its end are empty.
  have filled : found.content.reverse ≠ [] := by simpa using filled
  rw [← flatMap_textLines, ← collected.lines, List.flatMap_append, ← intercalate_append_feed filled,
    flatMap_replicate_nil, List.append_assoc, List.replicate_succ]
  rfl

/-- Without lines with content there is nothing but line feeds. -/
theorem Collected.only_feeds (collected : Collected (textLines text) found c)
    (nothing : found.content = []) : onlyFeeds text = true := by
  have feeds : endLine text = List.replicate found.blanks '\n' := by
    rw [← flatMap_textLines, ← collected.lines, nothing, List.reverse_nil, List.nil_append,
      flatMap_replicate_nil]
  -- The text is its lines, up to a line feed behind the last.
  refine List.all_eq_true.mpr fun ch member => ?_
  have inside : ch ∈ endLine text := by
    unfold endLine
    split
    · exact member
    · exact List.mem_append_left _ member
  rw [feeds] at inside
  exact decide_eq_true (List.eq_of_mem_replicate inside)

/-- With a line with content there is more than line feeds. -/
theorem Collected.not_only_feeds (collected : Collected (textLines text) found c)
    (filled : found.content ≠ []) : onlyFeeds text = false := by
  obtain ⟨line, others, content⟩ := List.exists_cons_of_ne_nil filled
  have known : line ∈ textLines text := by
    rw [← collected.lines, content]
    simp
  -- The line that was collected last has a character, and no line feed is in a line.
  have last := collected.content
  rw [content] at last
  obtain ⟨ch, rest, same⟩ := List.exists_cons_of_ne_nil fun empty => last (congrArg some empty)
  obtain ⟨inside, notFeed⟩ := mem_textLines known ch (same ▸ List.mem_cons_self)
  exact List.all_eq_false.mpr ⟨ch, inside, by simpa using notFeed⟩

/-- A text that does not end in a line feed has none counted behind it. -/
theorem eq_zero_of_getLast? {front : List Char} {count : Nat}
    (last : (front ++ List.replicate count '\n').getLast? ≠ some '\n') : count = 0 := by
  cases count with
  | zero => rfl
  | succ count =>
    rw [List.replicate_succ', ← List.append_assoc, List.getLast?_concat] at last
    exact absurd rfl last

/-- The value of the lines of a text is the text again, but nothing is left of a text of line feeds
alone. -/
theorem blockText_literal (collected : Collected (textLines text) found c) :
    blockText false (chompingOf (chompMark text)) found =
      if onlyFeeds text then [] else text := by
  -- Without content all lines are empty, and they are dropped whatever the mark.
  by_cases content : found.content = []
  · rw [if_pos (collected.only_feeds content)]
    simp [blockText, content]
  · have other := collected.not_only_feeds content
    have joined := collected.joined content
    have nonempty : found.content.reverse.isEmpty = false := by simpa using content
    rw [if_neg (Bool.not_eq_true _ ▸ other)]
    simp only [blockText, nonempty, Bool.false_eq_true, if_false]
    generalize ['\n'].intercalate found.content.reverse = body at joined ⊢
    have filled : text ≠ [] := by
      rintro rfl
      cases other
    -- The end of the text decides which mark was written, and with it what is chomped.
    by_cases ended : text.getLast? = some '\n'
    · rw [endLine, if_pos (.inr ended)] at joined
      by_cases several : text.dropLast.getLast? = some '\n'
      · have mark : chompMark text = ['+'] := by simp [chompMark, ended, several]
        rw [mark, joined]
        rfl
      · -- The one line feed is clipped off, and put back.
        have mark : chompMark text = [] := by simp [chompMark, ended, several, other]
        rw [joined, List.replicate_succ', ← List.append_assoc, List.dropLast_concat] at several
        rw [mark, joined, eq_zero_of_getLast? several]
        rfl
    · -- Every line feed at the end is stripped, and the text has none.
      have mark : chompMark text = ['-'] := by simp [chompMark, ended]
      rw [endLine, if_neg (by simp [filled, ended]), List.replicate_succ', ← List.append_assoc,
        List.append_cancel_right_eq] at joined
      rw [joined] at ended
      rw [mark, joined, eq_zero_of_getLast? ended]
      simp [chompingOf]

/-! ### Reading -/

variable {document blanks body : List Char} {s : State} {key : String} {keySpan : Span}
  {seen : List String} {column : Nat}

/-- A literal scalar with the lines of a text is read behind its key. -/
theorem readBlockNode_literal (s : State) (room : Nat) (noReturn : '\r' ∉ text)
    (positive : 0 < spaces) (small : spaces < 10)
    (blank : ∀ ch ∈ blanks, isInlineSpace ch = true)
    (written : Written column (column + spaces) (textLines text) body next)
    (passed : s.cursor.Passes (blanks ++ (markedHeader spaces text ++ '\n' :: body)) next)
    (enough : s.cursor.left ≤ document.length) :
    ∃ span stop space, IsSpace space ∧ stop.Passes space next ∧
      readBlockNode document (room + 1) (column + 1) .value s =
        .ok (.scalar (.string (String.ofList (if onlyFeeds text then [] else text))) span,
          s.moveTo stop) := by
  obtain ⟨c, spaced, behind⟩ := passed.split
  obtain ⟨headerEnd, header, line⟩ := behind.split
  have marks := markedHeader_marks text positive small
  have read := readBlockScalar_header document.length (column + 1) marks header line.peek
  have begun : Collected [] ⟨[], 0, headerEnd⟩ headerEnd.next :=
    .none isSpace_feed (.next line.peek)
  -- The lines are fewer characters than the document.
  have before := passed.left
  have lineFeed := line.tail.left
  have fewer : headerEnd.next.left < document.length := by
    simp only [List.length_append, List.length_cons, markedHeader] at before
    omega
  -- The lines are indented further than the key, and as far as the header says.
  have within : column + 1 ≤ column + spaces := Nat.add_le_add_left positive column
  have collected := collectLines_written written within within (areLines_textLines noReturn)
    line.tail fewer begun
  rw [indentationOf?_markedHeader positive small, Option.map_some, Nat.add_sub_cancel] at read
  dsimp only at read
  obtain ⟨space, isSpace, stopped⟩ := collected.space
  have literal : decide ('|' = '>') = false := rfl
  rw [literal, chompingOf_markedHeader positive small, blockText_literal collected] at read
  exact ⟨_, _, space, isSpace, stopped,
    readBlockNode_blockScalar (.inl rfl) blank spaced header.peek read⟩

/-- Any text without carriage returns can be written as a literal scalar below a key of a mapping:
the value of the key is that text, or the empty one if the text is nothing but line feeds. The next
entry is read as it stands there. -/
theorem literal_scalar_carries_text (text : List Char) (spaces column room more : Nat) {c : Cursor}
    (stands : s.cursor.StandsIn document)
    (keyed : readKey document.length s.cursor = .ok ((key, keySpan), c)) (new : key ∉ seen)
    (noReturn : '\r' ∉ text) (digit : 1 ≤ spaces ∧ spaces ≤ 9)
    (blank : ∀ ch ∈ blanks, isInlineSpace ch = true)
    (written : Written column (column + spaces) (textLines text) body next)
    (passed : c.Passes (blanks ++ (markedHeader spaces text ++ '\n' :: body)) next) :
    ∃ span,
      let value := String.ofList (if onlyFeeds text then [] else text)
      let entry : Entry Node := ⟨key, keySpan, .scalar (.string value) span⟩
      let stop := reach c.offset entry.value
      let node := readBlockNode document (room + 1) (column + 1) .value
      readBlockEntries document node column (more + 1) seen s =
        if next.atEnd then .ok (([entry], stop), s.moveTo next)
        else (do
          let ((rest, restStop), last) ←
            readBlockEntries document node column more (key :: seen) (s.moveTo next)
          .ok ((entry :: rest, max stop restStop), last)) := by
  -- The scalar stands behind its key, so fewer characters are left than the document has.
  have reached : c.left ≤ document.length := by
    obtain ⟨front, whole, _⟩ := stands
    have all := congrArg List.length whole
    have behind := readKey_left keyed
    unfold Cursor.left at behind ⊢
    rw [List.length_append] at all
    omega
  obtain ⟨span, stop, space, isSpace, stopped, read⟩ :=
    readBlockNode_literal (s.moveTo c) room noReturn digit.1 (Nat.lt_succ_of_le digit.2) blank
      written passed reached
  refine ⟨span, ?_⟩
  -- What stands behind the lines is where the reader of entries goes on.
  have skipped : ((s.moveTo c).moveTo stop).skipLayout = s.moveTo next :=
    skipLayout_moveTo isSpace stopped written.stops
  intro value entry stop node
  rw [readBlockEntries]
  simp only [keyed, bind, Except.bind, refuseRepeated_new new, node, read, skipped]
  have cursor : (s.moveTo next).cursor = next := rfl
  by_cases nothing : next.rest = []
  · have ended : next.atEnd = true := by simp [Cursor.atEnd, nothing]
    simp only [cursor, ended, Bool.true_or, if_true]
    rfl
  · -- The next key stands at the column of the mapping.
    have notEnd : next.atEnd = false := by simpa [Cursor.atEnd] using nothing
    obtain ⟨_, _, behind⟩ := passed.split
    obtain ⟨_, _, line⟩ := behind.split
    obtain ⟨noMarker, noDash⟩ := written.isKey nothing
    simp only [cursor, notEnd, noMarker, noDash, written.level nothing line, Nat.lt_irrefl,
      decide_false, Bool.or_false, Bool.false_eq_true, if_false]
    rfl

/-- A text that begins and ends with empty lines, with spaces and a tab in front of others, is read
as it is, and so is the number below the next key. -/
theorem text_with_empty_lines_is_carried :
    let document := "a: |2+\n\n   x\n  \t\n\nb: 1\n".toList
    ∃ span, readBlockEntries document (readBlockNode document 1 1 .value) 0 2 []
        ⟨.start document, [], 0⟩ =
      .ok (([⟨"a", ⟨0, 1⟩, .scalar (.string "\n x\n\t\n\n") span⟩,
        ⟨"b", ⟨18, 19⟩, .scalar (.number (.int 1)) ⟨21, 22⟩⟩],
        max (reach 2 (.scalar (.string "\n x\n\t\n\n") span)) 22), ⟨⟨[], 23, 0⟩, [], 0⟩) := by
  intro document
  -- The second key stands at the column of the first one, behind the lines of the text.
  have written : Written 0 2 (textLines "\n x\n\t\n\n".toList) "\n   x\n  \t\n\n".toList
      ⟨"b: 1\n".toList, 18, 0⟩ :=
    .nextKey (by decide) (fun ch first => by cases first; rfl) rfl rfl
  have passed : Cursor.Passes ⟨" |2+\n\n   x\n  \t\n\nb: 1\n".toList, 2, 2⟩
      ([' '] ++ (markedHeader 2 "\n x\n\t\n\n".toList ++ '\n' :: "\n   x\n  \t\n\n".toList))
      ⟨"b: 1\n".toList, 18, 0⟩ :=
    ⟨rfl, rfl⟩
  let s : State := ⟨.start document, [], 0⟩
  have stands : s.cursor.StandsIn document := Cursor.standsIn_start document
  have keyed : readKey document.length s.cursor =
      .ok (("a", ⟨0, 1⟩), ⟨" |2+\n\n   x\n  \t\n\nb: 1\n".toList, 2, 2⟩) := rfl
  have new : "a" ∉ [] := List.not_mem_nil
  obtain ⟨span, read⟩ := literal_scalar_carries_text "\n x\n\t\n\n".toList 2 0 0 1 stands keyed new
    (by decide) (by decide) (by simp [isInlineSpace]) written passed
  exact ⟨span, read.trans rfl⟩

/-- A single line feed is written with the mark that keeps it, and is lost. -/
theorem line_feed_is_lost :
    "a: |1+\n\nb: 2\n".toList = "a: ".toList ++ (markedHeader 1 ['\n'] ++
        '\n' :: (writeLines 1 (textLines ['\n']) ++ "b: 2\n".toList)) ∧
      ∃ root, readDocument .yaml "a: |1+\n\nb: 2\n" = .ok root ∧
        root.get? "a" = some (.scalar (.string "") ⟨3, 6⟩) := by
  refine ⟨rfl, .mapping [⟨"a", ⟨0, 1⟩, .scalar (.string "") ⟨3, 6⟩⟩,
    ⟨"b", ⟨8, 9⟩, .scalar (.number (.int 2)) ⟨11, 12⟩⟩] ⟨0, 12⟩, rfl, rfl⟩

end SpecTrace.Yaml
