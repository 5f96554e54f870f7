import SpecTrace.Document.Format
import SpecTrace.Proofs.Json.Strings
import SpecTrace.Proofs.Respelling.Layout
import SpecTrace.Proofs.Yaml.QuotedParts

/-! Texts in double quotes: they are read part by part, and folded by the rules unless something
that is escaped stands in front of a line break. -/

namespace SpecTrace.Yaml

/-! ### Parts in front of others -/

/-- A word in front of a text spells some parts. -/
structure Leads (word rest : List Char) (parts : List QuotedPart) : Prop where
  spelled : ∀ {more}, Spelled rest more → Spelled (word ++ rest) (parts ++ more)
  signed : Signed rest → Signed (word ++ rest)

variable {word more rest source back : List Char} {part : QuotedPart} {parts : List QuotedPart}

/-- No word spells no parts. -/
theorem Leads.nil : Leads [] rest [] :=
  ⟨id, id⟩

/-- One more part stands in front of others. -/
theorem Leads.cons (first : Spells word (more ++ rest) part) (others : Leads more rest parts) :
    Leads (word ++ more) rest (part :: parts) := by
  -- Whether the others are parts up to their end or lead to a sign, one more in front changes
  -- nothing.
  constructor
  · intro behind spelled
    rw [List.append_assoc]
    exact .cons first (others.spelled spelled)
  · intro signed
    rw [List.append_assoc]
    exact .later first (others.signed signed)

/-- A single part stands in front of a text. -/
theorem Leads.single (first : Spells word rest part) : Leads word rest [part] := by
  have alone : Leads (word ++ []) rest [part] := .cons first .nil
  rwa [List.append_nil] at alone

/-- A blank stands for itself. -/
theorem spells_blank {ch : Char} (blank : isInlineSpace ch = true) :
    Spells [ch] rest (.plain ch) := by
  simp only [isInlineSpace, Bool.or_eq_true, decide_eq_true_eq] at blank
  rcases blank with rfl | rfl
  · exact .plain (by decide) rfl
  · exact .plain (by decide) rfl

/-- Blanks stand for themselves. -/
theorem leads_blanks {blanks : List Char} (blank : ∀ ch ∈ blanks, isInlineSpace ch = true) :
    Leads blanks rest (blanks.map .plain) := by
  -- Blank by blank, each of which is a part of its own.
  induction blanks with
  | nil => exact .nil
  | cons c blanks ih =>
    obtain ⟨inline, others⟩ := List.forall_mem_cons.mp blank
    exact .cons (spells_blank inline) (ih others)

/-- A line also ends in front of the first part of what stands behind it. -/
theorem terminator_before_quote {mark : List Char}
    (ends : Terminator mark (source ++ '"' :: back)) : Terminator mark source := by
  cases ends with
  | feed => exact .feed _
  | pair => exact .pair _
  | lone apart =>
    -- A carriage return stays alone: what follows it in the shorter text follows it in the longer
    -- one.
    refine .lone ?_
    cases source with
    | nil => nofun
    | cons first others => exact apart

/-! ### How parts are read -/

/-- Blanks behind an escaped line break are not read. -/
theorem readParts_joined_blanks {blanks : List Char} (read : List Char) (parts : List QuotedPart)
    (blank : ∀ ch ∈ blanks, isInlineSpace ch = true) :
    readParts .joined read (blanks.map .plain ++ parts) = readParts .joined read parts := by
  -- A blank leaves the reader where it is, behind the break.
  induction blanks with
  | nil => rfl
  | cons c blanks ih =>
    obtain ⟨inline, others⟩ := List.forall_mem_cons.mp blank
    rw [List.map_cons, List.cons_append, readParts, if_pos ⟨inline, by simp⟩, ih others]

/-- Behind the blanks the line goes on as any other one. -/
theorem readParts_joined {read : List Char} (spelled : Spelled source parts)
    (stops : ∀ ch, source.head? = some ch → isInlineSpace ch = false) :
    readParts .joined read parts = readParts .inLine read parts := by
  cases spelled with
  | nil => rfl
  | cons first others =>
    -- What comes first is no blank, and no other part looks at where the line begins.
    cases first with
    | @plain c _ inside line =>
      have notInline := stops c rfl
      simp [readParts, notInline, LinePlace.joint]
    | escaped => rfl
    | lineBreak => rfl
    | escapedBreak => rfl

/-- Where no layout goes on, a line break is folded. -/
theorem readParts_folded {read : List Char} {empty : Nat} (spelled : Spelled source parts)
    (stops : ∀ ch, source.head? = some ch → isBreak ch = false ∧ isInlineSpace ch = false) :
    readParts (.folded empty) read parts = readParts .inLine (foldedBreak empty ++ read) parts := by
  cases spelled with
  | nil => rfl
  | cons first others =>
    -- The first part is no blank and no line break, so it ends the folding.
    cases first with
    | @plain c _ inside line =>
      have notInline := (stops c rfl).2
      simp [readParts, notInline, LinePlace.joint]
    | escaped => rfl
    | lineBreak ends =>
      obtain ⟨ch, more, split, breaks⟩ := ends.first _
      have line := (stops ch (by rw [split]; rfl)).1
      rw [breaks] at line
      cases line
    | escapedBreak => rfl

/-- Blank lines in front of a text spell line breaks and blanks, of which the line breaks are
counted. -/
theorem leads_blankRun {text : List Char}
    (behind : text.drop (blankRun text).1 = source ++ '"' :: back) :
    ∃ parts, Leads (text.take (blankRun text).1) source parts ∧
      ∀ empty read others, readParts (.folded empty) read (parts ++ others) =
        readParts (.folded (empty + (blankRun text).2)) read others := by
  -- By induction along the run: a pair, the end, a break, a blank, or anything else.
  induction text using blankRun.induct with
  | case1 rest chars breaks same ih =>
    rw [same] at ih
    simp only [blankRun, same] at behind ⊢
    obtain ⟨parts, leads, reads⟩ := ih behind
    refine ⟨.lineBreak :: parts, .cons (.lineBreak (.pair _)) leads, ?_⟩
    intro empty read others
    rw [List.cons_append, readParts, reads, Nat.add_right_comm, Nat.add_assoc]
  | case2 => cases source <;> cases behind
  | case3 first rest alone breaks chars count same ih =>
    rw [same] at ih
    simp only [blankRun, same, breaks, if_true, List.drop_succ_cons] at behind ⊢
    obtain ⟨parts, leads, reads⟩ := ih behind
    have whole : rest = (rest.take chars ++ source) ++ '"' :: back := by
      rw [List.append_assoc, ← behind, List.take_append_drop]
    -- A carriage return is no half of a pair, or it would have been taken as one.
    have ends : Terminator [first] (rest.take chars ++ source) := by
      rcases break_cases breaks with rfl | rfl
      · exact .feed _
      · have apart : rest.head? ≠ some '\n' := by
          intro feed
          obtain ⟨others, pair⟩ := List.head?_eq_some_iff.mp feed
          exact alone others rfl pair
        have ends : Terminator ['\r'] rest := .lone apart
        rw [whole] at ends
        exact terminator_before_quote ends
    refine ⟨.lineBreak :: parts, .cons (.lineBreak ends) leads, ?_⟩
    intro empty read others
    rw [List.cons_append, readParts, reads, Nat.add_right_comm, Nat.add_assoc]
  | case4 first rest alone noBreak inline chars count same ih =>
    rw [same] at ih
    simp only [blankRun, same, noBreak, inline, Bool.false_eq_true, if_false, if_true,
      List.drop_succ_cons] at behind ⊢
    obtain ⟨parts, leads, reads⟩ := ih behind
    refine ⟨.plain first :: parts, .cons (spells_blank inline) leads, ?_⟩
    intro empty read others
    rw [List.cons_append, readParts, if_pos ⟨inline, by simp⟩, reads]
  | case5 first rest alone noBreak noInline =>
    simp only [blankRun, noBreak, noInline] at behind ⊢
    exact ⟨[], .nil, fun _ _ _ => rfl⟩

/-- Behind blank lines no more layout stands. -/
theorem blankRun_stops (text : List Char) :
    ∀ ch, (text.drop (blankRun text).1).head? = some ch →
      isBreak ch = false ∧ isInlineSpace ch = false := by
  -- The run goes on with every break and every blank.
  induction text using blankRun.induct with
  | case1 rest chars breaks same ih =>
    rw [same] at ih
    simp only [blankRun, same]
    exact ih
  | case2 =>
    intro ch first
    cases first
  | case3 first rest alone breaks chars count same ih =>
    rw [same] at ih
    simp only [blankRun, same, breaks, if_true]
    exact ih
  | case4 first rest alone noBreak inline chars count same ih =>
    rw [same] at ih
    simp only [blankRun, same, noBreak, inline, Bool.false_eq_true, if_false, if_true]
    exact ih
  | case5 first rest alone noBreak noInline =>
    simp only [blankRun, noBreak, noInline, Bool.false_eq_true, if_false, List.drop_zero]
    rintro ch ⟨⟩
    exact ⟨eq_false_of_ne_true noBreak, eq_false_of_ne_true noInline⟩

/-! ### Steps of the reader -/

variable {c after : Cursor} {read other : List Char} {text : String}

/-- A text between quotes is read behind characters in reverse: its parts are, if it has any. -/
def Reads (source read : List Char) (text : String) : Prop :=
  Signed source ∨ ∃ parts, Spelled source parts ∧
    text = String.ofList (readParts .inLine read parts).reverse

/-- Parts in front of a text are read with it. -/
theorem Leads.reads (leads : Leads word rest parts)
    (step : ∀ others, Spelled rest others →
      readParts .inLine read (parts ++ others) = readParts .inLine other others)
    (reads : Reads rest other text) : Reads (word ++ rest) read text := by
  -- A sign behind the parts is a sign in the whole; otherwise the parts stand in front of the
  -- others.
  rcases reads with signed | ⟨others, spelled, value⟩
  · exact .inl (leads.signed signed)
  · refine .inr ⟨parts ++ others, leads.spelled spelled, ?_⟩
    rw [step others spelled, value]

/-- A line break is skipped as a terminator. -/
theorem passes_skipBreak {letter : Char} (there : c.peek = some letter)
    (breaks : isBreak letter = true) :
    ∃ mark, Terminator mark c.skipBreak.rest ∧ c.Passes mark c.skipBreak := by
  have rest := Cursor.rest_of_peek there
  -- A pair is skipped as one break.
  by_cases pair : c.startsWith ['\r', '\n'] = true
  · have skipped : c.skipBreak = c.advance 2 := by
      simp [Cursor.skipBreak, Cursor.skipBreak?, pair]
    rw [skipped]
    exact ⟨_, .pair _, .of_startsWith pair⟩
  · have skipped : c.skipBreak = c.next := by
      simp [Cursor.skipBreak, Cursor.skipBreak?, pair, Cursor.atBreak, there, breaks]
    rw [skipped]
    refine ⟨[letter], ?_, .next there⟩
    rcases break_cases breaks with rfl | rfl
    · exact .feed _
    · -- No line feed follows, or both would be skipped.
      refine .lone fun feed => pair ?_
      obtain ⟨others, same⟩ := List.head?_eq_some_iff.mp feed
      rw [Cursor.startsWith, rest, same]
      rfl

/-- A letter or a mark behind a backslash is one that is known. -/
theorem mem_shortEscapes {letter decoded : Char} (known : shortEscape? letter = some decoded) :
    (letter, decoded) ∈ shortEscapes := by
  unfold shortEscape? at known
  split at known <;> first | cases known; decide | cases known

/-- A letter with digits behind it is one that is known. -/
theorem mem_digit_letters {letter : Char} {length : Nat}
    (known : hexEscapeLength? letter = some length) :
    (letter, length) ∈ [('x', 2), ('u', 4), ('U', 8)] := by
  unfold hexEscapeLength? at known
  split at known <;> first | cases known; decide | cases known

/-- Behind a letter a number of hexadecimal digits is read, or one that begins with a sign. -/
theorem readHexEscape_some {letter decoded : Char} {length : Nat}
    (known : (letter, length) ∈ [('x', 2), ('u', 4), ('U', 8)])
    (answered : readHexEscape length c = .ok (decoded, after)) :
    ∃ digits, c.Passes digits after ∧
      (Escape (letter :: digits) decoded ∨ ∃ others, digits = '+' :: others) := by
  unfold readHexEscape at answered
  split at answered
  · simp at answered
  · rename_i digits cut
    split at answered
    · simp at answered
    · rename_i value read
      cases answered
      obtain ⟨⟨tail, same⟩, bytes⟩ := takeExactBytes?_eq_some cut
      -- The digits are a number, and the number is the code of a character.
      obtain ⟨number, natural, char⟩ := Option.bind_eq_some_iff.mp read
      refine ⟨digits, .of_rest same.symm, ?_⟩
      by_cases sign : digits.head? = some '+'
      · obtain ⟨others, rfl⟩ := List.head?_eq_some_iff.mp sign
        exact .inr ⟨others, rfl⟩
      · -- Every character of a number is one byte, so the digits are as many as they should be.
        have single := byteLength_of_single (readNatural?_single natural).1
        have long : length = digits.length := bytes.symm.trans single
        have strict := readDigits?_of_readNatural? sign natural
        rw [long] at known
        exact .inl (.digits known (Option.bind_eq_some_iff.mpr ⟨number, strict, char⟩))

/-- What is read behind a backslash is an escape sequence, unless its digits begin with a sign. -/
theorem readEscape_some {decoded : Char} (answered : readEscape c = .ok (some decoded, after)) :
    ∃ word, c.Passes word after ∧ (Escape word decoded ∨
      ∃ letter digits, letter ∈ ['x', 'u', 'U'] ∧ word = letter :: '+' :: digits) := by
  -- The three kinds of escapes are tried in turn: line breaks, letters that ask for digits, and
  -- letters that stand alone.
  unfold readEscape at answered
  split at answered
  · simp at answered
  · rename_i letter there
    split at answered
    · cases answered
    · split at answered
      · -- A letter that asks for digits is looked up before the letters that stand alone.
        rename_i length known
        have letters := mem_digit_letters known
        obtain ⟨⟨found, behind⟩, hex, answered⟩ := bind_eq_ok.mp answered
        cases answered
        obtain ⟨digits, passed, spelled⟩ := readHexEscape_some letters hex
        refine ⟨letter :: digits, .cons there passed, ?_⟩
        rcases spelled with escape | ⟨others, rfl⟩
        · exact .inl escape
        · exact .inr ⟨letter, others, (digit_letters _ letters).1, rfl⟩
      · split at answered
        · rename_i found known
          cases answered
          exact ⟨[letter], .next there, .inl (.short (mem_shortEscapes known))⟩
        · cases answered

/-- Nothing is read behind a backslash if a line break is there. -/
theorem readEscape_none (answered : readEscape c = .ok (none, after)) :
    (∃ letter, c.peek = some letter ∧ isBreak letter = true) ∧
      after = c.skipBreak.skipInlineSpace := by
  unfold readEscape at answered
  split at answered
  · simp at answered
  · rename_i letter there
    split at answered
    · -- Only a line break is answered with nothing.
      rename_i breaks
      cases answered
      exact ⟨⟨letter, there, breaks⟩, rfl⟩
    · split at answered
      · obtain ⟨_, _, answered⟩ := bind_eq_ok.mp answered
        cases answered
      · split at answered <;> cases answered

/-- An escaped line break and the blanks behind it are read as nothing. -/
theorem reads_escapedBreak {letter : Char} (there : c.peek = some letter)
    (breaks : isBreak letter = true)
    (passed : c.skipBreak.skipInlineSpace.Passes (source ++ ['"']) after)
    (reads : Reads source read text) :
    ∃ word, c.Passes (word ++ (source ++ ['"'])) after ∧
      Reads ('\\' :: word ++ source) read text := by
  obtain ⟨mark, ends, line⟩ := passes_skipBreak there breaks
  have blanks := c.skipBreak.passes_skipWhile isInlineSpace
  have blank : ∀ ch ∈ c.skipBreak.rest.takeWhile isInlineSpace, isInlineSpace ch = true :=
    fun ch member => List.all_eq_true.mp List.all_takeWhile ch member
  generalize c.skipBreak.rest.takeWhile isInlineSpace = inline at blanks blank
  -- What follows the break is followed by the closing quote.
  have rest : c.skipBreak.rest = (inline ++ source) ++ '"' :: after.rest := by
    rw [blanks.rest, ← Cursor.skipInlineSpace, passed.rest]
    simp
  rw [rest] at ends
  have leads : Leads ('\\' :: mark ++ inline) source (.escapedBreak :: inline.map .plain) :=
    .cons (.escapedBreak (terminator_before_quote ends)) (leads_blanks blank)
  -- What stands behind the blanks is no blank.
  have stops : ∀ ch, source.head? = some ch → isInlineSpace ch = false := by
    intro ch first
    obtain ⟨others, rfl⟩ := List.head?_eq_some_iff.mp first
    exact Cursor.peek_skipWhile passed.peek
  refine ⟨mark ++ inline, ?_, leads.reads ?_ reads⟩
  · rw [List.append_assoc]
    exact line.trans (blanks.trans passed)
  · intro others spelled
    have joined := readParts_joined_blanks read others blank
    rw [readParts_joined spelled stops] at joined
    exact joined

/-- A line break and the blank lines behind it are folded. -/
theorem reads_lineBreak {letter : Char} (there : c.peek = some letter)
    (breaks : isBreak letter = true)
    (passed : (foldBreak read c).2.Passes (source ++ ['"']) after)
    (reads : Reads source (foldBreak read c).1 text) :
    ∃ word, c.Passes (word ++ (source ++ ['"'])) after ∧ Reads (word ++ source) read text := by
  obtain ⟨mark, ends, line⟩ := passes_skipBreak there breaks
  unfold foldBreak Cursor.skipBlankLines at passed reads
  dsimp only at passed reads
  -- The blank lines are those that the reader skips.
  have run := c.skipBreak.passes_take (blankRun c.skipBreak.rest).1
  have behind : c.skipBreak.rest.drop (blankRun c.skipBreak.rest).1 =
      source ++ '"' :: after.rest := by
    rw [← Cursor.rest_advance, passed.rest]
    simp
  obtain ⟨parts, leads, folds⟩ := leads_blankRun behind
  have rest : c.skipBreak.rest =
      (c.skipBreak.rest.take (blankRun c.skipBreak.rest).1 ++ source) ++ '"' :: after.rest := by
    rw [List.append_assoc, ← behind, List.take_append_drop]
  rw [rest] at ends
  -- What follows them is no layout any more.
  have stops : ∀ ch, source.head? = some ch → isBreak ch = false ∧ isInlineSpace ch = false := by
    intro ch first
    apply blankRun_stops c.skipBreak.rest
    obtain ⟨others, rfl⟩ := List.head?_eq_some_iff.mp first
    rw [behind]
    rfl
  have all := Leads.cons (.lineBreak (terminator_before_quote ends)) leads
  refine ⟨_, ?_, all.reads ?_ reads⟩
  · rw [List.append_assoc]
    exact line.trans (run.trans passed)
  · intro others spelled
    rw [List.cons_append, readParts, folds, Nat.zero_add, readParts_folded spelled stops]

/-- What is read up to the closing quote is read part by part. -/
theorem readQuotedRest_reads {began bound : Nat}
    (answered : readQuotedRest began '"' bound read c = .ok (text, after)) :
    ∃ source, c.Passes (source ++ ['"']) after ∧ Reads source read text := by
  -- By induction on the steps of the reader, each of which reads a part in front of those read
  -- later.
  induction bound generalizing read c with
  | zero => cases answered
  | succ bound ih =>
    unfold readQuotedRest at answered
    split at answered
    · cases answered
    · rename_i letter there
      split at answered
      · -- At the closing quote no parts are left.
        rename_i quote
        rw [if_neg fun single => absurd single.1 (by decide)] at answered
        cases answered
        rw [quote] at there
        exact ⟨[], .next there, .inr ⟨[], .nil, rfl⟩⟩
      · rename_i notQuote
        split at answered
        · rename_i backslash
          rw [backslash.1] at there
          obtain ⟨⟨decoded, behind⟩, escape, answered⟩ := bind_eq_ok.mp answered
          obtain ⟨source, passed, reads⟩ := ih answered
          -- What is escaped is a line break, or it stands for a character.
          cases decoded with
          | none =>
            obtain ⟨⟨letter, next, breaks⟩, rfl⟩ := readEscape_none escape
            obtain ⟨word, all, reads⟩ := reads_escapedBreak next breaks passed reads
            refine ⟨'\\' :: word ++ source, ?_, reads⟩
            rw [List.append_assoc]
            exact .cons there all
          | some decoded =>
            obtain ⟨word, escaped, known⟩ := readEscape_some escape
            refine ⟨'\\' :: word ++ source, ?_, ?_⟩
            · rw [List.append_assoc]
              exact .cons there (escaped.trans passed)
            · rcases known with escape | ⟨letter, digits, known, rfl⟩
              · exact (Leads.single (.escaped escape)).reads (fun _ _ => rfl) reads
              · exact .inl (.here known)
        · rename_i notEscape
          split at answered
          · rename_i breaks
            obtain ⟨source, passed, reads⟩ := ih answered
            obtain ⟨word, all, reads⟩ := reads_lineBreak there breaks passed reads
            refine ⟨word ++ source, ?_, reads⟩
            rw [List.append_assoc]
            exact all
          · rename_i line
            obtain ⟨source, passed, reads⟩ := ih answered
            have inside : letter ≠ '"' ∧ letter ≠ '\\' :=
              ⟨notQuote, fun same => notEscape ⟨same, rfl⟩⟩
            refine ⟨letter :: source, .cons there passed, ?_⟩
            have first : Spells [letter] source (.plain letter) :=
              .plain inside (eq_false_of_ne_true line)
            refine (Leads.single first).reads ?_ reads
            intro others _
            simp [readParts, LinePlace.joint]

/-! ### Reading and the rules -/

/-- What parts are read as is what they stand for exactly if nothing that is escaped stands in front
of a line break. -/
theorem readParts_eq_decoded_iff (parts : List QuotedPart) :
    (readParts .inLine [] parts).reverse = decoded .inLine parts ↔
      escapesBeforeBreak parts = false := by
  -- At the beginning nothing is held back.
  have empty : LinePlace.inLine.kept (breaksNext parts) [] = [] := by
    cases breaksNext parts <;> rfl
  constructor
  · intro same
    -- Otherwise something would be missing, and the text would weigh less.
    have missing := weight_readParts parts .inLine []
    rw [← weight_reverse, same, empty] at missing
    have nothing : weight [] = 0 := rfl
    cases escapes : escapesBeforeBreak parts with
    | false => rfl
    | true =>
      rw [escapes, Bool.true_or, Bool.toNat_true] at missing
      omega
  · intro apart
    rw [@readParts_eq .inLine [] parts apart nofun, empty, List.append_nil, List.reverse_reverse]

/-- A text that is accepted in double quotes has parts, unless a sign stands in place of the first
digit of an escape sequence. It is read as what its parts stand for exactly if no blank and no line
break that is escaped stands right in front of a line break, but for blanks. -/
theorem quoted_text_by_rules_iff {bound : Nat} {span : Span} (quote : c.peek = some '"')
    (answered : readQuoted bound c = .ok ((text, span), after)) :
    ∃ source, c.Passes ('"' :: (source ++ ['"'])) after ∧
      (Signed source ∨ ∃ parts, Spelled source parts) ∧
      ∀ parts, Spelled source parts →
        (text = String.ofList (decoded .inLine parts) ↔ escapesBeforeBreak parts = false) := by
  unfold readQuoted at answered
  rw [quote, Option.getD_some] at answered
  obtain ⟨⟨value, behind⟩, rest, answered⟩ := bind_eq_ok.mp answered
  cases answered
  obtain ⟨source, passed, reads⟩ := readQuotedRest_reads rest
  refine ⟨source, .cons quote passed, ?_, ?_⟩
  · exact reads.imp_right fun ⟨parts, spelled, _⟩ => ⟨parts, spelled⟩
  · intro parts spelled
    -- With a sign the text has no parts at all, and without one it has no others.
    rcases reads with signed | ⟨same, spelledSame, value⟩
    · exact absurd spelled signed.not_spelled
    · rw [value, spelledSame.unique spelled, String.ofList_inj]
      exact readParts_eq_decoded_iff parts

/-- A break that is escaped leaves the blank in front of it, and two that are not become one line
feed. -/
theorem lines_in_quotes_are_folded :
    let c : Cursor := .start "\"a \\\n  b\n\n c\"".toList
    let after : Cursor := ⟨[], 13, 3⟩
    c.peek = some '"' ∧ readQuoted 13 c = .ok (("a b\nc", ⟨0, 13⟩), after) ∧
      ∃ source, c.Passes ('"' :: (source ++ ['"'])) after ∧
        (Signed source ∨ ∃ parts, Spelled source parts) ∧
        ∀ parts, Spelled source parts →
          ("a b\nc" = String.ofList (decoded .inLine parts) ↔
            escapesBeforeBreak parts = false) := by
  intro c after
  -- The scalar is read by evaluation; which lines its text has is told by the theorem.
  have quote : c.peek = some '"' := rfl
  have read : readQuoted 13 c = .ok (("a b\nc", ⟨0, 13⟩), after) := rfl
  exact ⟨quote, read, quoted_text_by_rules_iff quote read⟩

/-- A tab that is escaped in front of a line break is lost, and so is the line feed of an empty line
behind an escaped one; a sign in place of a digit is read. -/
theorem escapes_are_lost :
    (∃ parts, Spelled "a\\t\n b".toList parts ∧ decoded .inLine parts = "a\t b".toList ∧
        readDocument .yaml "\"a\\t\n b\"" = .ok (.scalar (.string "a b") ⟨0, 8⟩)) ∧
      (∃ parts, Spelled "a\\\n\nb".toList parts ∧ decoded .inLine parts = "a\nb".toList ∧
        readDocument .yaml "\"a\\\n\nb\"" = .ok (.scalar (.string "a b") ⟨0, 7⟩)) ∧
      Signed "\\x+4".toList ∧
        readDocument .yaml "\"\\x+4\"" = .ok (.scalar (.string "\x04") ⟨0, 6⟩) := by
  -- Every part is a word in front of the others.
  have first : ∀ rest, Spells ['a'] rest (.plain 'a') := fun _ => .plain (by decide) rfl
  have last : Spelled ['b'] [.plain 'b'] := .cons (.plain (by decide) rfl) .nil
  have feed : ∀ rest, Terminator ['\n'] rest := .feed
  have tab : Escape ['t'] '\t' := .short (by decide)
  have blank : Spelled [' ', 'b'] [.plain ' ', .plain 'b'] := .cons (spells_blank rfl) last
  have tabbed : Spelled "\\t\n b".toList [.escaped '\t', .lineBreak, .plain ' ', .plain 'b'] :=
    .cons (.escaped tab) (.cons (.lineBreak (feed _)) blank)
  have joined : Spelled "\\\n\nb".toList [.escapedBreak, .lineBreak, .plain 'b'] :=
    .cons (.escapedBreak (feed _)) (.cons (.lineBreak (feed _)) last)
  exact ⟨⟨_, .cons (first _) tabbed, rfl, rfl⟩, ⟨_, .cons (first _) joined, rfl, rfl⟩,
    .here (by decide), rfl⟩

end SpecTrace.Yaml
