import SpecTrace.Proofs.Yaml.FlowValues

/-! Where a block node opens and where its line ends; a JSON value that begins on the line is read
as the same node. -/

namespace SpecTrace.Yaml

open Grammar

variable {c d after : Cursor} {text document : List Char} {s : State} {margin : Nat}

/-- A node opens at a position, without properties or anything else that may stand before it. -/
structure Opens (c : Cursor) : Prop where
  stops : Stops inLayout c.rest
  there : c.atEnd = false
  noMark : ∀ mark ∈ ['!', '&', '%', '\uFEFF'], c.peek ≠ some mark
  notMarker : c.atDocumentMarker = false

/-- A value begins at a position. -/
structure Starts (c : Cursor) (first : Char) : Prop where
  there : c.peek = some first
  begins : Begins first
  /-- A minus stands in front of a digit. -/
  minus : first = '-' → ∃ second, c.peekSecond = some second ∧ second.isDigit = true

/-- A value begins where its text does. -/
theorem starts_of_value {unit? : List Char → Option Nat} {start : Nat} {node : Node}
    (value : Value unit? start text node) (passed : c.Passes text after) :
    ∃ first, Starts c first := by
  obtain ⟨first, rest, rfl, begins⟩ := value.first
  refine ⟨first, passed.peek, begins, ?_⟩
  rintro rfl
  -- Of all values only a number may begin with a minus.
  cases value with
  | leaf leaf =>
    rcases plain_or_quoted leaf with plain | ⟨_, _, quoted⟩
    · obtain ⟨first, more, same, letter | digit | ⟨_, second, there, isDigit⟩⟩ := plain.begins
      · cases same
        simp at letter
      · cases same
        cases digit
      · cases same
        refine ⟨second, ?_, isDigit⟩
        unfold Cursor.peekSecond
        rw [passed.rest]
        cases rest with
        | nil => cases there
        | cons _ _ => simpa using there
    · obtain ⟨_, same⟩ := quoted.first
      cases same

namespace Starts

variable {first : Char}

/-- Where a value begins the text has not ended. -/
theorem not_atEnd (starts : Starts c first) : c.atEnd = false := by
  have there := starts.there
  unfold Cursor.peek at there
  unfold Cursor.atEnd
  cases rest : c.rest with
  | nil => simp [rest] at there
  | cons _ _ => rfl

/-- A value does not begin with a dash of a sequence. -/
theorem not_dash (starts : Starts c first) : c.atIndicator '-' = false := by
  unfold Cursor.atIndicator
  rw [starts.there]
  -- A dash of a sequence has a blank behind it, and a minus has a digit.
  by_cases minus : first = '-'
  · obtain ⟨second, behind, digit⟩ := starts.minus minus
    have notBlank : isBlank (some second) = false := by
      cases blank : isBlank (some second) with
      | false => rfl
      | true =>
        have plain := isPlain_of_isDigit digit
        simp only [isBlank, Bool.or_eq_true] at blank
        rcases blank with blank | blank <;> simp [isPlain, blank] at plain
    simp [behind, notBlank]
  · simp [minus]

/-- A value does not begin with another indicator. -/
theorem not_indicator (starts : Starts c first) {indicator : Char} (other : ¬Begins indicator) :
    c.atIndicator indicator = false := by
  unfold Cursor.atIndicator
  rw [starts.there]
  simp [starts.begins.ne other]

/-- A value does not begin with a document marker. -/
theorem not_marker (starts : Starts c first) : c.atDocumentMarker = false := by
  -- Neither three dashes nor three points begin a value.
  have neither : ∀ marker : List Char, marker = openingMarker ∨ marker = closingMarker →
      c.startsWith marker = false := by
    intro marker known
    cases there : c.startsWith marker with
    | false => rfl
    | true =>
      obtain ⟨tail, same⟩ := List.isPrefixOf_iff_prefix.mp there
      have next := starts.there
      unfold Cursor.peek at next
      rw [← same] at next
      rcases known with rfl | rfl
      · -- The second dash would be a digit.
        cases next
        obtain ⟨second, behind, digit⟩ := starts.minus rfl
        unfold Cursor.peekSecond at behind
        rw [← same] at behind
        cases behind
        cases digit
      · cases next
        exact absurd starts.begins (by decide)
  simp [Cursor.atDocumentMarker, Cursor.atMarker, Cursor.startsWithMarker, neither]

/-- A value opens a node. -/
theorem opens (starts : Starts c first) : Opens c := by
  refine ⟨?_, starts.not_atEnd, fun mark known same => ?_, starts.not_marker⟩
  · rw [(Cursor.Passes.next starts.there).rest]
    exact begins_stops starts.begins
  · cases Option.some.inj (starts.there.symm.trans same)
    simp only [List.mem_cons, List.not_mem_nil, or_false] at known
    rcases known with rfl | rfl | rfl | rfl <;> exact absurd starts.begins (by decide)

end Starts

/-! ### The end of a line -/

/-- A line ends behind a value, and what stands on the next ones does not belong to it if it keeps
to a margin. -/
structure LineEnds (margin : Nat) (after : Cursor) : Prop where
  ended : expectLineEnd after = .ok ()
  noColon : after.skipInlineSpace.atIndicator ':' = false
  scanned : ∀ afterBlank read text,
    scanLine afterBlank read text after.rest = (text, .lineEnd)
  noMore : ∀ bound text, readContinuation margin bound text after = .ok (text, after)

/-- Behind the blanks of a line comes a line break, or nothing. -/
theorem dropWhile_space {space tail : List Char} (blank : IsSpace space)
    (ends : tail = [] ∨ space.any isBreak = true) {ch : Char}
    (next : ((space ++ tail).dropWhile isInlineSpace).head? = some ch) : isBreak ch = true := by
  -- Blanks are dropped up to the first line break of the white space.
  induction space with
  | nil =>
    rcases ends with rfl | breaks
    · cases next
    · cases breaks
  | cons first rest ih =>
    have others := ih blank.tail
    rcases blank first List.mem_cons_self with rfl | rfl | rfl | rfl
    · exact others (by simpa [isBreak] using ends) next
    · exact others (by simpa [isBreak] using ends) next
    · cases next
      rfl
    · cases next
      rfl

/-- No text is scanned in the blanks of a line. -/
theorem scanLine_space {space tail : List Char} (blank : IsSpace space)
    (ends : tail = [] ∨ space.any isBreak = true) (afterBlank : Bool) (read text : Nat) :
    scanLine afterBlank read text (space ++ tail) = (text, .lineEnd) := by
  -- Blank by blank up to a line break, which has to come if the text goes on.
  induction space generalizing afterBlank read with
  | nil =>
    -- Without white space the text has ended.
    rcases ends with rfl | breaks
    · rfl
    · cases breaks
  | cons first rest ih =>
    have others := fun ends => ih blank.tail ends
    rcases blank first List.mem_cons_self with rfl | rfl | rfl | rfl
    · have behind := others (by simpa [isBreak] using ends) true (read + 1)
      simp [scanLine, isBreak, isInlineSpace, behind]
    · have behind := others (by simpa [isBreak] using ends) true (read + 1)
      simp [scanLine, isBreak, isInlineSpace, behind]
    · rfl
    · rfl

/-- White space is a run of blank lines up to the next character. -/
theorem blankRun_space {space tail : List Char} (blank : IsSpace space)
    (stops : Stops inLayout tail) : (blankRun (space ++ tail)).1 = space.length := by
  -- What follows is no part of the run.
  have nothing : (blankRun tail).1 = 0 := by
    cases tail with
    | nil => rfl
    | cons first rest =>
      obtain ⟨notBreak, notInline⟩ := stops_layout stops rfl
      have notReturn : first ≠ '\r' := by
        rintro rfl
        cases notBreak
      simp [blankRun, notReturn, notBreak, notInline]
  -- A carriage return takes a line feed behind it along; the tail begins with none.
  have noFeed : ∀ rest more : List Char, (∀ others, rest ≠ '\n' :: others) →
      rest ++ tail ≠ '\n' :: more := by
    intro rest more alone same
    cases rest with
    | nil => exact absurd (stops '\n' (by simp_all)) (by decide)
    | cons first others =>
      cases same
      exact alone _ rfl
  -- The white space is taken apart as the run is; nothing but white space may end it.
  induction space using blankRun.induct with
  | case1 rest _ _ _ ih => 
    have others := ih blank.tail.tail
    simp [blankRun, others]
  | case2 => exact nothing
  | case3 first rest alone breaks _ _ _ ih =>
    have others := ih blank.tail
    rw [List.cons_append, blankRun]
    · simp [breaks, others]
    · rintro more rfl
      exact noFeed _ _ fun others same => alone others rfl same
  | case4 first rest alone noBreak inline _ _ _ ih =>
    have others := ih blank.tail
    rw [List.cons_append, blankRun]
    · simp [noBreak, inline, others]
    · rintro more rfl
      exact absurd rfl noBreak
  | case5 first rest alone noBreak noInline =>
    rcases blank first List.mem_cons_self with rfl | rfl | rfl | rfl <;>
      simp [isBreak, isInlineSpace] at noBreak noInline

/-- A line break that is skipped in white space has white space behind it. -/
theorem skipBreak?_space {space : List Char} {nextLine : Cursor} (blank : IsSpace space)
    (passed : c.Passes space d) (stops : Stops inLayout d.rest)
    (skipped : c.skipBreak? = some nextLine) :
    ∃ behind, IsSpace behind ∧ nextLine.Passes behind d := by
  have notBreak : ∀ ch, d.rest.head? = some ch → isBreak ch = false :=
    fun ch next => (stops_layout stops next).1
  -- A carriage return and a line feed are skipped together, other line breaks alone.
  unfold Cursor.skipBreak? at skipped
  split at skipped
  · rename_i both
    cases skipped
    have there : c.rest = space ++ d.rest := passed.rest
    obtain ⟨more, same⟩ := List.isPrefixOf_iff_prefix.mp both
    rw [← same] at there
    -- The two characters stand in the white space, since what follows it begins with no break.
    match space with
    | [] => exact absurd (notBreak '\r' (by simp at there; simp [← there])) (by decide)
    | [_] => 
      simp at there
      exact absurd (notBreak '\n' (by simp [← there.2])) (by decide)
    | _ :: _ :: behind => exact ⟨behind, blank.tail.tail, passed.tail.tail⟩
  · split at skipped
    · rename_i breaks
      cases skipped
      cases space with
      | nil =>
        rw [← passed.eq_of_nil] at breaks
        unfold Cursor.atBreak Cursor.peek at breaks
        cases next : d.rest.head? with
        | none => simp [next] at breaks
        | some ch =>
          rw [next, Option.any_some, notBreak ch next] at breaks
          cases breaks
      | cons first behind => exact ⟨behind, blank.tail, passed.tail⟩
    · cases skipped

/-- The blanks of a line are skipped within white space. -/
theorem skipInlineSpace_space {space : List Char} (blank : IsSpace space)
    (passed : c.Passes space d) (stops : Stops inLayout d.rest) :
    ∃ behind, IsSpace behind ∧ c.skipInlineSpace.Passes behind d := by
  -- The blanks are the first part of the white space, and the rest of it stays.
  have parts := passed
  rw [← @List.takeWhile_append_dropWhile _ isInlineSpace space] at parts
  obtain ⟨middle, inline, behind⟩ := parts.split
  -- What follows the blanks is a line break, or what the white space ends at.
  have stop : ∀ ch, middle.peek = some ch → isInlineSpace ch = false := by
    intro ch next
    unfold Cursor.peek at next
    rw [behind.rest] at next
    have notInline := List.head?_dropWhile_not isInlineSpace space
    cases rest : space.dropWhile isInlineSpace with
    | nil =>
      exact (stops_layout stops (by simpa [rest] using next)).2
    | cons first others => simp_all
  have skipped : c.skipInlineSpace = middle :=
    inline.skipWhile (fun ch member => List.all_eq_true.mp List.all_takeWhile ch member) stop
  rw [skipped]
  exact ⟨_, fun ch member => blank ch ((List.dropWhile_sublist _).subset member), behind⟩

/-- Behind white space, neither the end of the text nor a line left of the margin goes on with a plain
scalar. -/
theorem readContinuation_of_space {space : List Char} (blank : IsSpace space)
    (passed : after.Passes space d) (stops : Stops inLayout d.rest)
    (ends : d.rest = [] ∨ d.column < margin) (bound : Nat) (text : List Char) :
    readContinuation margin bound text after = .ok (text, after) := by
  cases bound with
  | zero => rfl
  | succ bound =>
    unfold readContinuation
    split
    · rfl
    · rename_i nextLine skipped
      -- The blank lines reach up to what follows.
      obtain ⟨inline, blankInline, rest⟩ := skipInlineSpace_space blank passed stops
      obtain ⟨behind, blankBehind, lines⟩ := skipBreak?_space blankInline rest stops skipped
      have line : nextLine.skipBlankLines.1 = d := by
        unfold Cursor.skipBlankLines
        dsimp only
        rw [lines.rest, blankRun_space blankBehind stops, ← lines.moved]
      have ended : (d.atEnd || d.atDocumentMarker || d.peek = some '#' || d.column < margin) =
          true := by
        rcases ends with nothing | left
        · simp [Cursor.atEnd, nothing]
        · simp [left]
      simp only [line, ended, if_true]

/-- A line ends in white space if the text does behind it, or if it has a line break and what
follows stands left of the margin. -/
theorem lineEnds_of_space {space : List Char} (blank : IsSpace space)
    (passed : after.Passes space d) (stops : Stops inLayout d.rest)
    (ends : d.rest = [] ∨ space.any isBreak = true ∧ d.column < margin) :
    LineEnds margin after := by
  -- In both cases nothing but white space stands on the line.
  have breaks := ends.imp_right And.left
  have next : ∀ ch, after.skipInlineSpace.peek = some ch → isBreak ch = true := by
    intro ch there
    unfold Cursor.skipInlineSpace Cursor.peek at there
    rw [Cursor.rest_skipWhile, passed.rest] at there
    exact dropWhile_space blank breaks there
  refine ⟨?_, ?_, ?_, ?_⟩
  · -- The line ends with a break, or with the text.
    unfold expectLineEnd
    dsimp only
    split
    · rfl
    · rename_i ch there
      simp [next ch there]
  · -- A colon is no line break.
    unfold Cursor.atIndicator
    cases there : after.skipInlineSpace.peek with
    | none => rfl
    | some ch =>
      have notColon : ch ≠ ':' := by
        rintro rfl
        cases next _ there
      simp [notColon]
  · intro afterBlank read text
    -- No text is scanned behind the value.
    rw [passed.rest]
    exact scanLine_space blank breaks afterBlank read text
  · exact readContinuation_of_space blank passed stops (ends.imp_right And.right)

/-- A plain scalar is scanned as a whole. -/
theorem scanLine_plain {tail : List Char} (plain : ∀ ch ∈ text, isPlain ch = true)
    (ends : ∀ afterBlank read text, scanLine afterBlank read text tail = (text, .lineEnd))
    (afterBlank : Bool) (read : Nat) :
    scanLine afterBlank read read (text ++ tail) = (read + text.length, .lineEnd) := by
  -- Character by character; only behind the text anything may stop the scan.
  induction text generalizing afterBlank read with
  | nil => exact ends afterBlank read read
  | cons ch rest ih =>
    have one := plain ch List.mem_cons_self
    have others := ih (fun d member => plain d (List.mem_cons_of_mem _ member)) false (read + 1)
    simp only [isPlain, Bool.not_eq_true', Bool.or_eq_false_iff, decide_eq_false_iff_not] at one
    -- No character of the text ends it.
    obtain ⟨⟨⟨⟨notBreak, notBlank⟩, _⟩, notColon⟩, notComment⟩ := one
    simp only [List.cons_append, scanLine, notBreak, notColon, notComment, notBlank,
      Bool.false_eq_true, if_false, false_and, others, List.length_cons]
    congr 1
    omega

/-- The line of a plain scalar. -/
theorem scanPlainLine_plain {value : Scalar} (plain : Plain text value)
    (passed : c.Passes text after) (ends : LineEnds margin after) :
    scanPlainLine c = (text, after, .lineEnd) := by
  unfold scanPlainLine
  rw [passed.rest, scanLine_plain plain.chars ends.scanned, Nat.zero_add]
  simp only [List.take_left, ← passed.moved]

/-- A plain scalar is read as its value. -/
theorem readMappingOrScalar_plain {value : Scalar} {children : Children} {sameLine : Bool}
    (plain : Plain text value) (passed : s.cursor.Passes text after)
    (ends : LineEnds margin after) :
    readMappingOrScalar document children margin sameLine .none s =
      .ok (.scalar value ⟨s.cursor.offset, s.cursor.offset + byteLength text⟩, s.moveTo after) := by
  have scanned := scanPlainLine_plain plain passed ends
  have noQuote := plain.not_quote passed
  -- Without a colon behind it the scalar is no key.
  have noKey : atMappingKey document.length s.cursor = .ok false := by
    unfold atMappingKey
    rw [noQuote]
    simp only [Bool.false_eq_true, if_false, scanned]
    rfl
  have read : readPlain document.length margin s.cursor =
      .ok (.scalar value ⟨s.cursor.offset, s.cursor.offset + byteLength text⟩, after) := by
    unfold readPlain
    simp only [scanned, if_true, ends.noMore, bind, Except.bind, plain.resolves, passed.offset]
  unfold readMappingOrScalar
  simp only [noKey, bind, Except.bind, Bool.false_eq_true, if_false, noQuote, read]

/-- A quoted scalar without a colon behind it is read as its value. -/
theorem readMappingOrScalar_quoted {value : String} {children : Children} {sameLine : Bool}
    (quoted : Quoted codeUnit? text value) (passed : s.cursor.Passes text after)
    (ends : LineEnds margin after) (enough : s.cursor.left ≤ document.length) :
    readMappingOrScalar document children margin sameLine .none s =
      .ok (.scalar (.string value) ⟨s.cursor.offset, s.cursor.offset + byteLength text⟩,
        s.moveTo after) := by
  have read := readQuoted_of_quoted quoted passed enough
  -- The quoted text is read to look for a colon, and once more as a scalar.
  have quote : s.cursor.atQuote = true := by
    obtain ⟨rest, rfl⟩ := quoted.first
    simp [Cursor.atQuote, passed.peek]
  have noKey : atMappingKey document.length s.cursor = .ok false := by
    unfold atMappingKey
    simp only [quote, if_true, read, bind, Except.bind, ends.noColon]
  unfold readMappingOrScalar
  simp only [noKey, bind, Except.bind, Bool.false_eq_true, if_false, quote, if_true, read,
    ends.ended]

/-! ### Block nodes -/

/-- Where a node without properties opens, a block node is read by its content. -/
theorem readBlockNode_opens {space : List Char} {room : Nat} {place : Place}
    (spaced : s.cursor.Passes space c) (blank : IsSpace space) (opens : Opens c) :
    readBlockNode document (room + 1) margin place s =
      readBlockContent document ⟨readBlockNode document room, readFlowNode document room⟩ margin
        place (space.any isBreak) .none s.cursor.offset (s.moveTo c) := by
  -- The layout in front is skipped, and there are no properties.
  have content := skipLayout_of_passes blank spaced opens.stops
  have noProperties : readProperties false 3 .none c = .ok (.none, c) :=
    readProperties_none (opens.noMark _ (by simp)) (opens.noMark _ (by simp)) false
  unfold readBlockNode
  simp only [content, noProperties, bind, Except.bind]
  simp only [Properties.none, Bool.or_false]
  cases readBlockContent document ⟨readBlockNode document room, readFlowNode document room⟩ margin
    place (space.any isBreak) ⟨none, none, false⟩ s.cursor.offset (s.moveTo c) <;> rfl

/-- What the content of a block node is where a value begins. -/
theorem readBlockContent_starts {first : Char} {emptyAt : Nat} {place : Place} {children : Children}
    (starts : Starts s.cursor first) :
    readBlockContent document children margin place false .none emptyAt s =
      if first = '[' ∨ first = '\x7b' then do
        let (node, s) ← children.flow s
        expectLineEnd s.cursor
        .ok (node, s)
      else readMappingOrScalar document children margin (place = .value) .none s := by
  -- The end, markers, dashes and question marks are told apart first.
  have other : ∀ c, ¬Begins c → s.cursor.peek ≠ some c := by
    intro c notBegins same
    exact starts.begins.ne notBegins (Option.some.inj (starts.there.symm.trans same))
  unfold readBlockContent
  dsimp only
  rw [starts.not_atEnd, starts.not_marker, starts.not_dash, starts.not_indicator (by decide)]
  simp only [Bool.or_false, Bool.false_and, Bool.false_eq_true, if_false, Bool.not_false,
    Bool.true_and]
  -- None of the indicators begins a value, except those of collections.
  split
  · rename_i same
    exact absurd same (other _ (by decide))
  · rename_i same
    exact absurd same (other _ (by decide))
  · rename_i same
    exact absurd same (other _ (by decide))
  · rename_i same
    rw [if_pos (Or.inl (Option.some.inj (starts.there.symm.trans same)))]
  · rename_i same
    rw [if_pos (Or.inr (Option.some.inj (starts.there.symm.trans same)))]
  · rename_i same
    exact absurd same (other _ (by decide))
  · rename_i same
    exact absurd same (other _ (by decide))
  · rename_i notSequence notMapping _ _
    rw [if_neg]
    rintro (rfl | rfl)
    · exact notSequence starts.there
    · exact notMapping starts.there

/-- A value that begins on the line is the content of a block node. -/
theorem readBlockContent_value {start room emptyAt : Nat} {node : Node} {place : Place}
    (value : Value codeUnit? start text node) (passed : s.cursor.Passes text after)
    (begins : s.cursor.offset = start) (ends : LineEnds margin after)
    (enough : s.cursor.left ≤ document.length) (distinct : node.Distinct)
    (fits : node.toJson.depth + 1 ≤ room) :
    readBlockContent document ⟨readBlockNode document room, readFlowNode document room⟩ margin place
      false .none emptyAt s = .ok (node, s.moveTo after) := by
  obtain ⟨first, starts⟩ := starts_of_value value passed
  rw [readBlockContent_starts starts]
  have ended : expectLineEnd (s.moveTo after).cursor = .ok () := ends.ended
  have there := starts.there
  -- A collection is read as a flow node, whatever stands behind it.
  have flow : (first = '[' ∨ first = '\x7b') → (∀ value span, node ≠ .scalar value span) →
      (if first = '[' ∨ first = '\x7b' then do
        let (node, s) ← readFlowNode document room s
        expectLineEnd s.cursor
        .ok (node, s)
      else readMappingOrScalar document
        ⟨readBlockNode document room, readFlowNode document room⟩ margin (place = .value) .none s) =
        .ok (node, s.moveTo after) := by
    intro opens collection
    have read := flow_value value document s after room passed begins
      (fun value span same => absurd same (collection value span)) enough distinct fits
    simp only [if_pos opens, read, bind, Except.bind, ended]
  -- The first character tells collections from scalars.
  cases value with
  | leaf leaf =>
    obtain ⟨c, rest, rfl, _, notSequence, notMapping⟩ := leaf.first
    cases Option.some.inj (passed.peek.symm.trans there)
    rw [if_neg (by simp [notSequence, notMapping])]
    subst begins
    -- A scalar is read to the end of its line.
    rcases plain_or_quoted leaf with plain | ⟨string, rfl, quoted⟩
    · exact readMappingOrScalar_plain plain passed ends
    · exact readMappingOrScalar_quoted quoted passed ends enough
  | emptyArray _ =>
    exact flow (Or.inl (Option.some.inj (there.symm.trans passed.peek))) nofun
  | array _ => exact flow (Or.inl (Option.some.inj (there.symm.trans passed.peek))) nofun
  | emptyObject _ => exact flow (Or.inr (Option.some.inj (there.symm.trans passed.peek))) nofun
  | object _ => exact flow (Or.inr (Option.some.inj (there.symm.trans passed.peek))) nofun

end SpecTrace.Yaml
