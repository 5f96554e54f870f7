import SpecTrace.Number.Decimal
import SpecTrace.Proofs.Respelling.Lines
import SpecTrace.Yaml.Quoted

/-! What stands between double quotes, part by part: the text that it stands for by YAML 1.2, where
line breaks are folded with the blanks around them unless they are escaped, and how the parts are
folded when they are read. -/

namespace SpecTrace.Yaml

/-! ### Parts -/

/-- A part of a text in double quotes. -/
inductive QuotedPart where
  /-- A character that stands for itself. -/
  | plain (c : Char)
  /-- A character that an escape sequence stands for. -/
  | escaped (c : Char)
  | lineBreak
  /-- A line break behind a backslash. -/
  | escapedBreak
deriving DecidableEq, Repr

/-- The escape sequences of a single character behind the backslash. -/
def shortEscapes : List (Char × Char) :=
  [('0', '\x00'), ('a', '\x07'), ('b', '\x08'), ('t', '\t'), ('\t', '\t'), ('n', '\n'),
    ('v', '\x0b'), ('f', '\x0c'), ('r', '\r'), ('e', '\x1b'), (' ', ' '), ('"', '"'), ('/', '/'),
    ('\\', '\\'), ('N', '\u0085'), ('_', '\u00a0'), ('L', '\u2028'), ('P', '\u2029')]

/-- What stands behind the backslash of an escape sequence for a character: a letter or a mark, or
a number of hexadecimal digits behind a letter. -/
inductive Escape : List Char → Char → Prop
  | short {letter c : Char} (known : (letter, c) ∈ shortEscapes) : Escape [letter] c
  | digits {letter c : Char} {digits : List Char}
    (known : (letter, digits.length) ∈ [('x', 2), ('u', 4), ('U', 8)])
    (spelled : (readDigits? 16 0 digits).bind charOfCode? = some c) : Escape (letter :: digits) c

/-- A word in front of a text spells a part. -/
inductive Spells : List Char → List Char → QuotedPart → Prop
  | plain {c : Char} {rest : List Char} (inside : c ≠ '"' ∧ c ≠ '\\') (line : isBreak c = false) :
    Spells [c] rest (.plain c)
  | escaped {word rest : List Char} {c : Char} (escape : Escape word c) :
    Spells ('\\' :: word) rest (.escaped c)
  | lineBreak {mark rest : List Char} (ends : Terminator mark rest) : Spells mark rest .lineBreak
  | escapedBreak {mark rest : List Char} (ends : Terminator mark rest) :
    Spells ('\\' :: mark) rest .escapedBreak

/-- The parts of a text between double quotes. -/
inductive Spelled : List Char → List QuotedPart → Prop
  | nil : Spelled [] []
  | cons {word rest : List Char} {part : QuotedPart} {parts : List QuotedPart}
    (first : Spells word rest part) (others : Spelled rest parts) :
    Spelled (word ++ rest) (part :: parts)

/-- Behind some parts of a text stands a sign where an escape sequence has its first digit. -/
inductive Signed : List Char → Prop
  | here {letter : Char} {rest : List Char} (known : letter ∈ ['x', 'u', 'U']) :
    Signed ('\\' :: letter :: '+' :: rest)
  | later {word rest : List Char} {part : QuotedPart} (first : Spells word rest part)
    (others : Signed rest) : Signed (word ++ rest)

/-! ### Folding by the rules -/

/-- Only blanks stand in front of the next line break, and it is not escaped. -/
def breaksNext : List QuotedPart → Bool
  | [] => false
  | .plain c :: rest => isInlineSpace c && breaksNext rest
  | .escaped _ :: _ => false
  | .lineBreak :: _ => true
  | .escapedBreak :: _ => false

/-- Where a part of a quoted text stands, which decides whether it is folded. -/
inductive LinePlace where
  /-- It stands behind something else on its line. -/
  | inLine
  /-- Before it there are a line break and some empty lines. -/
  | folded (empty : Nat)
  /-- An escaped line break stands before it, perhaps with empty lines behind it. -/
  | joined
deriving DecidableEq, Repr

/-- What a folded line break becomes when the line goes on. -/
def LinePlace.joint : LinePlace → List Char
  | .inLine => []
  | .folded empty => foldedBreak empty
  | .joined => []

/-- The text that parts stand for. Blanks around a line break are dropped. A line break becomes a
space, or the line feeds of the empty lines behind it; one that is escaped becomes nothing but these
line feeds. Characters that are escaped are kept. -/
def decoded : LinePlace → List QuotedPart → List Char
  | place, [] => place.joint
  | place, .plain c :: rest =>
    if !isInlineSpace c then place.joint ++ c :: decoded .inLine rest
    else if place ≠ .inLine then decoded place rest
    else if breaksNext rest then decoded .inLine rest
    else c :: decoded .inLine rest
  | place, .escaped c :: rest => place.joint ++ c :: decoded .inLine rest
  | place, .escapedBreak :: rest => place.joint ++ decoded .joined rest
  | .inLine, .lineBreak :: rest => decoded (.folded 0) rest
  | .folded empty, .lineBreak :: rest => decoded (.folded (empty + 1)) rest
  | .joined, .lineBreak :: rest => '\n' :: decoded .joined rest

/-- An escaped blank or line break stands somewhere with nothing but blanks between it and the next
line break, which is not escaped. -/
def escapesBeforeBreak : List QuotedPart → Bool
  | [] => false
  | .plain _ :: rest => escapesBeforeBreak rest
  | .escaped c :: rest => (isInlineSpace c && breaksNext rest) || escapesBeforeBreak rest
  | .lineBreak :: rest => escapesBeforeBreak rest
  | .escapedBreak :: rest => breaksNext rest || escapesBeforeBreak rest

/-! ### Parts are determined -/

section

variable {word other rest others : List Char} {part otherPart : QuotedPart} {c d : Char}

/-- No letter stands for two characters, and none that has digits behind it for one alone. -/
theorem shortEscapes_known : ∀ known ∈ shortEscapes,
    (∀ other ∈ shortEscapes, known.1 = other.1 → known.2 = other.2) ∧
      isBreak known.1 = false ∧ known.1 ∉ ['x', 'u', 'U'] := by
  decide

/-- The letters with digits behind them. -/
theorem digit_letters : ∀ known ∈ [('x', 2), ('u', 4), ('U', 8)],
    known.1 ∈ ['x', 'u', 'U'] ∧ isBreak known.1 = false ∧ 0 < known.2 ∧
      ∀ other ∈ [('x', 2), ('u', 4), ('U', 8)], known.1 = other.1 → known.2 = other.2 := by
  decide

/-- An escape sequence goes on behind the backslash on the same line. -/
theorem Escape.first (escape : Escape word c) :
    ∃ letter more, word = letter :: more ∧ isBreak letter = false := by
  cases escape with
  | short known => exact ⟨_, _, rfl, (shortEscapes_known _ known).2.1⟩
  | digits known => exact ⟨_, _, rfl, (digit_letters _ known).2.1⟩

/-- An escape sequence is the only one that a text begins with. -/
theorem Escape.unique (first : Escape word c) (second : Escape other d)
    (same : word ++ rest = other ++ others) : c = d ∧ rest = others := by
  cases first with
  | short known =>
    cases second with
    -- Both escape sequences begin with the same letter, which tells what stands behind it.
    | short otherKnown =>
      obtain ⟨letters, rests⟩ := List.cons.inj same
      exact ⟨(shortEscapes_known _ known).1 _ otherKnown letters, rests⟩
    | digits otherKnown =>
      obtain ⟨rfl, _⟩ := List.cons.inj same
      exact absurd (digit_letters _ otherKnown).1 (shortEscapes_known _ known).2.2
  | digits known spelled =>
    cases second with
    | short otherKnown =>
      obtain ⟨rfl, _⟩ := List.cons.inj same
      exact absurd (digit_letters _ known).1 (shortEscapes_known _ otherKnown).2.2
    | digits otherKnown otherSpelled =>
      -- The letter decides how many digits there are.
      obtain ⟨letters, behind⟩ := List.cons.inj same
      have lengths := (digit_letters _ known).2.2.2 _ otherKnown letters
      obtain ⟨rfl, rests⟩ := List.append_inj behind lengths
      exact ⟨Option.some.inj (spelled.symm.trans otherSpelled), rests⟩

/-- A part begins with a character. -/
theorem Spells.first (first : Spells word rest part) : ∃ ch more, word = ch :: more := by
  cases first with
  | plain => exact ⟨_, _, rfl⟩
  | escaped => exact ⟨_, _, rfl⟩
  | lineBreak ends => cases ends <;> exact ⟨_, _, rfl⟩
  | escapedBreak => exact ⟨_, _, rfl⟩

/-- A terminator does not begin with a character of a line. -/
theorem not_terminator {mark : List Char} (ends : Terminator mark rest)
    (line : isBreak c = false) (same : c :: others = mark ++ rest) : False := by
  -- A terminator begins with the character of a break.
  obtain ⟨ch, more, split, breaks⟩ := ends.first rest
  rw [split] at same
  cases same
  rw [line] at breaks
  cases breaks

/-- A part is the only one that a text begins with. -/
theorem Spells.unique (first : Spells word rest part) (second : Spells other others otherPart)
    (same : word ++ rest = other ++ others) : part = otherPart ∧ rest = others := by
  -- The first character tells the kinds apart; behind a backslash the second one does.
  cases first with
  | plain inside line =>
    cases second with
    | plain =>
      obtain ⟨rfl, rests⟩ := List.cons.inj same
      exact ⟨rfl, rests⟩
    | escaped => exact absurd (List.cons.inj same).1 inside.2
    | lineBreak ends => exact (not_terminator ends line same).elim
    | escapedBreak => exact absurd (List.cons.inj same).1 inside.2
  | escaped escape =>
    cases second with
    | plain inside => exact absurd (List.cons.inj same).1.symm inside.2
    | escaped otherEscape =>
      obtain ⟨rfl, rests⟩ := escape.unique otherEscape (List.cons.inj same).2
      exact ⟨rfl, rests⟩
    | lineBreak ends => exact (not_terminator ends rfl same).elim
    | escapedBreak ends =>
      obtain ⟨letter, more, rfl, line⟩ := escape.first
      exact (not_terminator ends line (List.cons.inj same).2).elim
  | lineBreak ends =>
    cases second with
    | plain _ line => exact (not_terminator ends line same.symm).elim
    | escaped => exact (not_terminator ends rfl same.symm).elim
    | lineBreak otherEnds => exact ⟨rfl, ends.unique otherEnds same⟩
    | escapedBreak => exact (not_terminator ends rfl same.symm).elim
  | escapedBreak ends =>
    cases second with
    | plain inside => exact absurd (List.cons.inj same).1.symm inside.2
    | escaped escape =>
      obtain ⟨letter, more, rfl, line⟩ := escape.first
      exact (not_terminator ends line (List.cons.inj same).2.symm).elim
    | lineBreak otherEnds => exact (not_terminator otherEnds rfl same).elim
    | escapedBreak otherEnds => exact ⟨rfl, ends.unique otherEnds (List.cons.inj same).2⟩

variable {source : List Char} {parts otherParts : List QuotedPart}

/-- A text has one list of parts at most. -/
theorem Spelled.unique (first : Spelled source parts) (second : Spelled source otherParts) :
    parts = otherParts := by
  -- Part by part, as each is the only one that the rest of the text begins with.
  induction first generalizing otherParts with
  | nil =>
    generalize text : ([] : List Char) = source at second
    cases second with
    | nil => rfl
    | cons head =>
      obtain ⟨ch, more, rfl⟩ := head.first
      cases text
  | @cons word rest _ _ head _ ih =>
    generalize text : word ++ rest = source at second
    cases second with
    | nil =>
      obtain ⟨ch, more, rfl⟩ := head.first
      cases text
    | cons otherHead others =>
      obtain ⟨rfl, rfl⟩ := head.unique otherHead text
      rw [ih others]

/-- A text with a sign in place of a digit has no parts. -/
theorem Signed.not_spelled (signed : Signed source) : ¬Spelled source parts := by
  -- By induction on the parts in front of the sign, which a list of parts would have to share.
  induction signed generalizing parts with
  | @here letter rest known =>
    generalize text : '\\' :: letter :: '+' :: rest = source
    intro spelled
    cases spelled with
    | nil => cases text
    | cons head =>
      -- What begins with a backslash is an escape sequence or an escaped break.
      cases head with
      | plain inside => exact inside.2 (List.cons.inj text).1.symm
      | lineBreak ends => exact not_terminator ends rfl text
      | escapedBreak ends =>
        have lines : ∀ letter ∈ ['x', 'u', 'U'], isBreak letter = false := by simp [isBreak]
        exact not_terminator ends (lines letter known) (List.cons.inj text).2
      | escaped escape =>
        have behind := (List.cons.inj text).2
        cases escape with
        | short short =>
          obtain ⟨rfl, _⟩ := List.cons.inj behind
          exact (shortEscapes_known _ short).2.2 known
        | @digits _ _ digits known spelled =>
          -- The sign would have to be the first digit.
          have filled := (digit_letters _ known).2.2.1
          cases digits with
          | nil => cases filled
          | cons first more =>
            obtain ⟨_, behind⟩ := List.cons.inj behind
            obtain ⟨rfl, _⟩ := List.cons.inj behind
            simp [readDigits?, digitValue?] at spelled
  | @later word rest _ first _ ih =>
    generalize text : word ++ rest = source
    intro spelled
    cases spelled with
    | nil =>
      obtain ⟨ch, more, rfl⟩ := first.first
      cases text
    | cons head others =>
      obtain ⟨rfl, rfl⟩ := first.unique head text
      exact ih others

end

/-! ### Folding as parts are read -/

/-- The characters that parts are read as behind others, all in reverse. Where a line break is
folded, blanks are dropped from what was read, whether they were escaped or not. -/
def readParts : LinePlace → (read : List Char) → List QuotedPart → List Char
  | place, read, [] => place.joint ++ read
  | place, read, .plain c :: rest =>
    if isInlineSpace c ∧ place ≠ .inLine then readParts place read rest
    else readParts .inLine (c :: (place.joint ++ read)) rest
  | place, read, .escaped c :: rest => readParts .inLine (c :: (place.joint ++ read)) rest
  | place, read, .escapedBreak :: rest => readParts .joined (place.joint ++ read) rest
  | .folded empty, read, .lineBreak :: rest => readParts (.folded (empty + 1)) read rest
  | .inLine, read, .lineBreak :: rest => readParts (.folded 0) (read.dropWhile isInlineSpace) rest
  | .joined, read, .lineBreak :: rest => readParts (.folded 0) (read.dropWhile isInlineSpace) rest

/-- A folded line break is the same in reverse. -/
theorem reverse_joint (place : LinePlace) : place.joint.reverse = place.joint := by
  -- Only a fold is more than one character, and it is a run of line feeds.
  cases place with
  | inLine => rfl
  | joined => rfl
  | folded empty =>
    unfold LinePlace.joint foldedBreak
    dsimp only
    split
    · rfl
    · exact List.reverse_replicate

/-- What stays of what was read: without the blanks at its end if the line ends behind them. -/
def LinePlace.kept (place : LinePlace) (ends : Bool) (read : List Char) : List Char :=
  match place with
  | .folded _ => read
  | _ => if ends then read.dropWhile isInlineSpace else read

variable {place : LinePlace} {read : List Char} {parts : List QuotedPart} {ch : Char}

/-- A character that is no blank stays, with all in front of it. -/
theorem kept_content {ends : Bool} (content : ends = true → isInlineSpace ch = false) :
    LinePlace.inLine.kept ends (ch :: read) = ch :: read := by
  -- Blanks are dropped from the end, which this character now is.
  cases ends with
  | false => rfl
  | true => simp [LinePlace.kept, content rfl]

/-- Where the line does not end, all of what was read stays. -/
theorem kept_false : place.kept false read = read := by
  cases place <;> rfl

/-- A character that is no blank ends what is folded in front of it. -/
theorem readParts_content (content : isInlineSpace ch = false) :
    readParts place read (.plain ch :: parts) =
      readParts .inLine (ch :: (place.joint ++ read)) parts := by
  cases place <;> simp [readParts, content]

/-- A character that is no blank stands for itself. -/
theorem decoded_content (content : isInlineSpace ch = false) :
    decoded place (.plain ch :: parts) = place.joint ++ ch :: decoded .inLine parts := by
  cases place <;> simp [decoded, content]

/-- No line ends in front of a character that is no blank. -/
theorem breaksNext_content (content : isInlineSpace ch = false) :
    breaksNext (.plain ch :: parts) = false := by
  rw [breaksNext, content, Bool.false_and]

/-- Parts are read by the rules if nothing that is escaped stands in front of a line break. -/
theorem readParts_eq (apart : escapesBeforeBreak parts = false)
    (behind : place = .joined → breaksNext parts = false) :
    readParts place read parts =
      (decoded place parts).reverse ++ place.kept (breaksNext parts) read := by
  -- By induction on the parts, with what was read in front of them.
  induction parts generalizing place read with
  | nil =>
    cases place <;> simp [readParts, decoded, LinePlace.kept, breaksNext, reverse_joint]
  | cons part rest ih =>
    -- A character that is kept stands in the line, behind what was folded.
    have inLine : ∀ c, escapesBeforeBreak rest = false →
        (breaksNext rest = true → isInlineSpace c = false) →
        readParts .inLine (c :: (place.joint ++ read)) rest =
          (place.joint ++ c :: decoded .inLine rest).reverse ++ read := by
      intro c apart content
      rw [@ih .inLine _ apart nofun, kept_content content]
      simp [reverse_joint]
    cases part with
    | plain c =>
      cases blank : isInlineSpace c with
      | false =>
        rw [readParts_content blank, decoded_content blank, breaksNext_content blank, kept_false]
        exact inLine c apart fun _ => blank
      | true =>
        have ends : breaksNext (.plain c :: rest) = breaksNext rest := by
          rw [breaksNext, blank, Bool.true_and]
        rw [ends] at behind ⊢
        cases place with
        | inLine =>
          -- The blank is dropped again if the line ends behind it.
          have line := @ih .inLine (c :: read) apart nofun
          cases next : breaksNext rest with
          | false => simpa [readParts, decoded, blank, next, kept_false, LinePlace.joint] using line
          | true =>
            simpa [readParts, decoded, blank, next, LinePlace.kept, LinePlace.joint] using line
        | folded empty => simpa [readParts, decoded, blank] using ih apart behind
        | joined => simpa [readParts, decoded, blank] using ih apart behind
    | escaped c =>
      simp only [escapesBeforeBreak, Bool.or_eq_false_iff, Bool.and_eq_false_iff] at apart
      have content : breaksNext rest = true → isInlineSpace c = false := by
        intro ends
        simpa [ends] using apart.1
      rw [readParts, decoded, breaksNext, kept_false]
      exact inLine c apart.2 content
    | lineBreak =>
      cases place with
      | inLine =>
        have line := @ih (.folded 0) (read.dropWhile isInlineSpace) apart nofun
        simpa [readParts, decoded, breaksNext, LinePlace.kept] using line
      | folded empty =>
        have line := @ih (.folded (empty + 1)) read apart nofun
        simpa [readParts, decoded, breaksNext, LinePlace.kept] using line
      -- Behind an escaped break no other one follows at once, as nothing escaped stands in front of
      -- it.
      | joined => cases behind rfl
    | escapedBreak =>
      simp only [escapesBeforeBreak, Bool.or_eq_false_iff] at apart
      have line := @ih .joined (place.joint ++ read) apart.2 fun _ => apart.1
      rw [apart.1, kept_false] at line
      simp [readParts, decoded, breaksNext, kept_false, line, reverse_joint]

/-! ### What is missing -/

/-- The length of a text, in which line feeds count twice. By this measure, line breaks that are
folded where they should not be always leave something out. -/
def weight (text : List Char) : Nat :=
  text.length + text.count '\n'

/-- Texts one behind the other weigh as much as both. -/
theorem weight_append (front back : List Char) :
    weight (front ++ back) = weight front + weight back := by
  unfold weight
  rw [List.length_append, List.count_append]
  omega

/-- A character weighs something. -/
theorem weight_cons (ch : Char) (text : List Char) :
    weight (ch :: text) = weight [ch] + weight text :=
  weight_append [ch] text

/-- A single character weighs one at least. -/
theorem weight_single (ch : Char) : 1 ≤ weight [ch] :=
  Nat.le_add_right 1 _

/-- The order does not matter. -/
theorem weight_reverse (text : List Char) : weight text.reverse = weight text := by
  unfold weight
  rw [List.length_reverse, List.count_reverse]

/-- Blanks that are dropped weighed something. -/
theorem weight_dropWhile_le (text : List Char) :
    weight (text.dropWhile isInlineSpace) ≤ weight text := by
  -- What is dropped and what stays weigh as much as the text.
  have whole := congrArg weight (@List.takeWhile_append_dropWhile _ isInlineSpace text)
  rw [weight_append] at whole
  omega

/-- What stays of what was read weighs no more. -/
theorem weight_kept_le (place : LinePlace) (ends : Bool) (read : List Char) :
    weight (place.kept ends read) ≤ weight read := by
  -- What is kept is all that was read, or that without the blanks at its end.
  unfold LinePlace.kept
  split
  · exact Nat.le_refl _
  · split
    · exact weight_dropWhile_le read
    · exact Nat.le_refl _

/-- The line feeds of empty lines weigh two each, and a space one. -/
theorem weight_foldedBreak (empty : Nat) :
    weight (foldedBreak empty) + 1 ≤ 2 * (empty + 1) := by
  -- With no empty line there is one space, and otherwise a feed for each.
  unfold foldedBreak weight
  split
  · rename_i zero
    rw [zero]
    decide
  · rw [List.length_replicate, List.count_replicate_self]
    omega

/-- A folded line break weighs less than it does behind one that is escaped. -/
theorem weight_decoded_folded (empty : Nat) (parts : List QuotedPart) :
    weight (decoded (.folded empty) parts) + 1 ≤
      2 * (empty + 1) + weight (decoded .joined parts) := by
  have folded := weight_foldedBreak
  -- By induction on the parts, up to the first one that ends the folding.
  induction parts generalizing empty with
  | nil => exact Nat.le_add_right_of_le (folded empty)
  | cons part rest ih =>
    have here := folded empty
    cases part with
    | plain c =>
      cases blank : isInlineSpace c with
      | false =>
        rw [decoded_content blank, decoded_content blank, weight_append]
        simp only [LinePlace.joint, List.nil_append]
        omega
      | true => simpa [decoded, blank] using ih empty
    | escaped c =>
      simp only [decoded, weight_append, LinePlace.joint, List.nil_append]
      omega
    | lineBreak =>
      have more := ih (empty + 1)
      -- One more empty line weighs as much as the line feed that is kept behind the escaped break.
      have feed : weight ['\n'] = 2 := by decide
      rw [decoded, decoded, weight_cons '\n', feed]
      omega
    | escapedBreak =>
      simp only [decoded, weight_append, LinePlace.joint, List.nil_append]
      omega

/-- What is read of parts, behind what stays of the characters in front of them, weighs no more than
by the rules. It weighs less if something that is escaped stands in front of a line break. -/
def Weighs (parts : List QuotedPart) : Prop :=
  ∀ place read, weight (readParts place read parts) +
      (escapesBeforeBreak parts || (decide (place = .joined) && breaksNext parts)).toNat ≤
    weight (place.kept (breaksNext parts) read) + weight (decoded place parts)

namespace Weighs

variable {rest : List QuotedPart}

/-- A character that is no blank is read as it is. -/
theorem content (weighs : Weighs rest) (content : isInlineSpace ch = false) :
    Weighs (.plain ch :: rest) := by
  intro place read
  -- Behind the character the line goes on, with the folded break and what was read in front.
  have line := weighs .inLine (ch :: (place.joint ++ read))
  rw [kept_content fun _ => content, weight_cons, weight_append] at line
  rw [readParts_content content, decoded_content content, breaksNext_content content, kept_false,
    weight_append, weight_cons ch]
  simp only [escapesBeforeBreak, reduceCtorEq, decide_false, Bool.false_and, Bool.and_false,
    Bool.or_false] at line ⊢
  omega

/-- A blank is read as it is, unless the line ends behind it or has not gone on yet. -/
theorem blank (weighs : Weighs rest) (blank : isInlineSpace ch = true) :
    Weighs (.plain ch :: rest) := by
  intro place read
  have ends : breaksNext (.plain ch :: rest) = breaksNext rest := by
    rw [breaksNext, blank, Bool.true_and]
  rw [ends]
  cases place with
  | inLine =>
    -- The blank is dropped again, here as by the rules, if the line ends behind it.
    have line := weighs .inLine (ch :: read)
    cases next : breaksNext rest with
    | false =>
      have stays : decoded .inLine (.plain ch :: rest) = ch :: decoded .inLine rest := by
        simp [decoded, blank, next]
      rw [next, kept_false, weight_cons] at line
      rw [stays, kept_false, weight_cons ch, readParts, if_neg (by simp)]
      simp only [escapesBeforeBreak, LinePlace.joint, List.nil_append] at line ⊢
      omega
    | true =>
      simpa [readParts, decoded, blank, next, escapesBeforeBreak, LinePlace.joint,
        LinePlace.kept] using line
  | folded empty =>
    simpa [readParts, decoded, blank, escapesBeforeBreak] using weighs (.folded empty) read
  | joined => simpa [readParts, decoded, blank, escapesBeforeBreak] using weighs .joined read

/-- A character that is escaped is lost if it is a blank and the line ends behind it. -/
theorem escaped (weighs : Weighs rest) : Weighs (.escaped ch :: rest) := by
  intro place read
  have line := weighs .inLine (ch :: (place.joint ++ read))
  have one := weight_single ch
  rw [readParts, decoded, breaksNext, kept_false, weight_append, weight_cons ch]
  simp only [escapesBeforeBreak, reduceCtorEq, decide_false, Bool.false_and, Bool.and_false,
    Bool.or_false] at line ⊢
  cases lost : isInlineSpace ch && breaksNext rest with
  | false =>
    -- The character is kept, as no line ends behind it or it is no blank.
    have content : breaksNext rest = true → isInlineSpace ch = false := by
      intro ends
      simpa [ends] using lost
    rw [kept_content content, weight_cons, weight_append] at line
    rw [Bool.false_or]
    omega
  | true =>
    -- The blank is dropped with those in front of it, although it is escaped.
    obtain ⟨blank, ends⟩ := Bool.and_eq_true_iff.mp lost
    have dropped := weight_dropWhile_le (place.joint ++ read)
    rw [weight_append] at dropped
    simp only [ends, LinePlace.kept, if_true, List.dropWhile_cons, blank] at line
    rw [Bool.true_or, Bool.toNat_true]
    omega

/-- A line break is folded. Behind one that is escaped it is the line feed of an empty line, which
is folded as if it ended the line in front. -/
theorem lineBreak (weighs : Weighs rest) : Weighs (.lineBreak :: rest) := by
  intro place read
  have line := weighs (.folded 0) (read.dropWhile isInlineSpace)
  cases place with
  | inLine =>
    simpa [readParts, decoded, escapesBeforeBreak, breaksNext, LinePlace.kept] using line
  | folded empty =>
    have more := weighs (.folded (empty + 1)) read
    simpa [readParts, decoded, escapesBeforeBreak, breaksNext, LinePlace.kept] using more
  | joined =>
    -- By the rules a line feed is kept here, which weighs more than what is folded instead.
    have folded := weight_decoded_folded 0 rest
    have feed : weight ['\n'] = 2 := by decide
    have atMostOne := Bool.toNat_le (escapesBeforeBreak rest)
    rw [readParts, decoded, weight_cons '\n', feed]
    simp only [breaksNext, LinePlace.kept, if_true, decide_true, Bool.true_and, Bool.or_true,
      Bool.toNat_true, reduceCtorEq, decide_false, Bool.false_and, Bool.or_false] at line ⊢
    omega

/-- A line break that is escaped is read as nothing. -/
theorem escapedBreak (weighs : Weighs rest) : Weighs (.escapedBreak :: rest) := by
  intro place read
  have line := weighs .joined (place.joint ++ read)
  -- Blanks in front of it are kept by the rules, but not if the next line break folds them away.
  have kept := weight_kept_le .joined (breaksNext rest) (place.joint ++ read)
  rw [weight_append] at kept
  rw [readParts, decoded, breaksNext, kept_false, weight_append]
  simp only [escapesBeforeBreak, decide_true, Bool.true_and, Bool.and_false,
    Bool.or_false] at line ⊢
  rw [Bool.or_comm]
  omega

end Weighs

/-- Parts that are read never weigh more than by the rules, and they weigh less if something that is
escaped stands in front of a line break. -/
theorem weight_readParts (parts : List QuotedPart) : Weighs parts := by
  -- Part by part; without parts, what was folded is what the rules fold.
  induction parts with
  | nil =>
    intro place read
    simp only [readParts, decoded, escapesBeforeBreak, breaksNext, kept_false, weight_append,
      Bool.and_false, Bool.or_false, Bool.toNat_false]
    omega
  | cons part rest ih =>
    cases part with
    | plain c =>
      cases blank : isInlineSpace c with
      | false => exact ih.content blank
      | true => exact ih.blank blank
    | escaped c => exact ih.escaped
    | lineBreak => exact ih.lineBreak
    | escapedBreak => exact ih.escapedBreak

end SpecTrace.Yaml
