import Mathlib.Data.List.Chain
import SpecTrace.Document.Format

/-! The lines of a folded block scalar: what the empty lines between two others become by YAML 1.2,
and for which lines that is what they are folded to. -/

namespace SpecTrace.Yaml

/-! ### Folding by the rules -/

/-- What stands between two lines with some empty lines between them: one line feed for each empty
line, or a space if there is none. Next to an indented line no line feed is folded, so there is one
more. -/
def ruledJoint (before : List Char) (empty : Nat) (line : List Char) : List Char :=
  if isIndented before || isIndented line then List.replicate (empty + 1) '\n'
  else if empty = 0 then [' ']
  else List.replicate empty '\n'

/-- Folds lines behind one with some empty lines behind it. -/
def ruledOnto (before : List Char) : (empty : Nat) → List (List Char) → List Char
  | _, [] => []
  | empty, line :: rest =>
    if line = [] then ruledOnto before (empty + 1) rest
    else ruledJoint before empty line ++ line ++ ruledOnto line 0 rest

/-- Folds lines behind some empty ones, each of which becomes a line feed. -/
def ruledAfter : (empty : Nat) → List (List Char) → List Char
  | _, [] => []
  | empty, line :: rest =>
    if line = [] then ruledAfter (empty + 1) rest
    else List.replicate empty '\n' ++ line ++ ruledOnto line 0 rest

/-- The lines of a folded scalar, the last of which is not empty, by the rules. -/
def ruledText (lines : List (List Char)) : List Char :=
  ruledAfter 0 lines

/-- Of two lines, one behind the other, none is indented if one is empty. -/
def Apart (before line : List Char) : Prop :=
  before = [] ∨ line = [] → isIndented before = false ∧ isIndented line = false

instance (before line : List Char) : Decidable (Apart before line) :=
  inferInstanceAs (Decidable (_ → _))

/-! ### Folding behind a line -/

variable {before line : List Char} {lines : List (List Char)} {empty : Nat}

/-- What was folded behind a line, with some empty lines behind it, and what is folded then. -/
def foldedOnto (before : List Char) (empty : Nat) (lines : List (List Char)) : List Char :=
  List.replicate empty '\n' ++ foldOnto (if empty = 0 then before else []) lines

/-- What stands between two lines with some empty lines between them when they are folded. -/
def actualJoint (before : List Char) (empty : Nat) (line : List Char) : List Char :=
  if empty = 0 then if isIndented before || isIndented line then ['\n'] else [' ']
  else List.replicate empty '\n'

/-- An empty line is one more. -/
theorem foldedOnto_empty (before : List Char) (empty : Nat) (rest : List (List Char)) :
    foldedOnto before empty ([] :: rest) = foldedOnto before (empty + 1) rest := by
  simp [foldedOnto, foldOnto, foldedJoint, List.replicate_succ']

/-- A line with content is joined to the one before. -/
theorem foldedOnto_line (filled : before ≠ []) (content : line ≠ []) (rest : List (List Char)) :
    foldedOnto before empty (line :: rest) =
      actualJoint before empty line ++ line ++ foldedOnto line 0 rest := by
  unfold foldedOnto actualJoint
  -- Either the line stands right behind the other one, or empty lines stand between them.
  by_cases zero : empty = 0
  · simp [zero, foldOnto, foldedJoint, content, filled, Bool.or_comm]
  · simp [zero, foldOnto, foldedJoint, content]

/-- What lines are joined by never has a line feed too many. -/
theorem length_actualJoint_le (before : List Char) (empty : Nat) (line : List Char) :
    (actualJoint before empty line).length ≤ (ruledJoint before empty line).length := by
  unfold actualJoint ruledJoint
  by_cases zero : empty = 0
  · cases isIndented before || isIndented line <;> simp [zero]
  · cases isIndented before || isIndented line <;> simp [zero]

/-- Lines are joined by the rules unless empty lines stand next to an indented one. -/
theorem actualJoint_eq_iff :
    actualJoint before empty line = ruledJoint before empty line ↔
      (empty ≠ 0 → isIndented before = false ∧ isIndented line = false) := by
  unfold actualJoint ruledJoint
  by_cases zero : empty = 0
  · cases isIndented before || isIndented line <;> simp [zero]
  · cases isIndented before <;> cases isIndented line <;> simp [zero]

/-- The last of lines with one in front of them is the last of them, or that one. -/
theorem ended_of_cons (ended : (line :: lines).getLast? ≠ some []) :
    lines.getLast? ≠ some [] := by
  intro same
  apply ended
  rw [List.getLast?_cons, same]
  rfl

/-- No more is folded than the rules have it. -/
theorem length_foldedOnto_le (filled : before ≠ []) (ended : lines.getLast? ≠ some [])
    (more : lines = [] → empty = 0) :
    (foldedOnto before empty lines).length ≤ (ruledOnto before empty lines).length := by
  -- By induction on the lines, with the last line that had content and the empty ones behind it.
  induction lines generalizing before empty with
  | nil => simp [foldedOnto, foldOnto, more rfl]
  | cons line rest ih =>
    unfold ruledOnto
    by_cases content : line = []
    · -- The last line is not empty, so another line follows this one.
      have goesOn : rest = [] → empty + 1 = 0 := by
        rintro rfl
        exact absurd (congrArg some content) ended
      rw [if_pos content, content, foldedOnto_empty]
      exact ih filled (ended_of_cons ended) goesOn
    · have joint := length_actualJoint_le before empty line
      have others := ih content (ended_of_cons ended) fun _ => rfl
      rw [if_neg content, foldedOnto_line filled content]
      simp only [List.length_append]
      omega

/-- Texts around a line, none of which is longer than its counterpart, are the same as a whole if
each is the same as its counterpart. -/
theorem around_line_eq_iff {front front' back back' : List Char}
    (shorter : front.length ≤ front'.length) (fewer : back.length ≤ back'.length) :
    front ++ line ++ back = front' ++ line ++ back' ↔ front = front' ∧ back = back' := by
  constructor
  · intro same
    have lengths := congrArg List.length same
    simp only [List.length_append] at lengths
    -- Neither front can be the shorter one, so the line stands at the same place in both.
    have long : (front ++ line).length = (front' ++ line).length := by
      simp only [List.length_append]
      omega
    obtain ⟨fronts, backs⟩ := List.append_inj same long
    exact ⟨List.append_cancel_right fronts, backs⟩
  · rintro ⟨rfl, rfl⟩
    rfl

/-- Behind a line, lines are folded by the rules if no empty line stands next to an indented
one. -/
theorem foldedOnto_eq_iff (filled : before ≠ []) (ended : lines.getLast? ≠ some [])
    (more : lines = [] → empty = 0) :
    foldedOnto before empty lines = ruledOnto before empty lines ↔
      (empty ≠ 0 → isIndented before = false) ∧
        List.IsChain Apart ((if empty = 0 then before else []) :: lines) := by
  -- By induction on the lines. Since nothing is ever too long, the whole agrees only if every part
  -- does.
  induction lines generalizing before empty with
  | nil => simp [foldedOnto, foldOnto, ruledOnto, more rfl]
  | cons line rest ih =>
    unfold ruledOnto
    by_cases content : line = []
    · have goesOn : rest = [] → empty + 1 = 0 := by
        rintro rfl
        exact absurd (congrArg some content) ended
      rw [if_pos content, content, foldedOnto_empty, ih filled (ended_of_cons ended) goesOn,
        List.isChain_cons_cons]
      by_cases zero : empty = 0
      · simp [zero, Apart, isIndented]
      · simp [zero, Apart, isIndented]
    · rw [if_neg content, foldedOnto_line filled content, List.isChain_cons_cons]
      have others := ih content (ended_of_cons ended) fun _ => rfl
      rw [if_pos rfl] at others
      have shorter := length_actualJoint_le before empty line
      have fewer := length_foldedOnto_le content (ended_of_cons ended) fun _ => rfl
      -- A line with content parts the text into what joins it and what follows it.
      rw [around_line_eq_iff shorter fewer, actualJoint_eq_iff, others]
      by_cases zero : empty = 0
      · simp [zero, Apart, content, filled]
      · simp [zero, Apart, isIndented, and_assoc]

/-! ### Folding lines -/

/-- Behind an empty first line a line feed is missing. -/
theorem length_foldOnto_lt (filled : lines ≠ []) (ended : lines.getLast? ≠ some []) :
    (List.replicate empty '\n' ++ foldOnto [] lines).length <
      (ruledAfter (empty + 1) lines).length := by
  -- By induction on the empty lines in front, each of which becomes one line feed on both sides.
  induction lines generalizing empty with
  | nil => exact absurd rfl filled
  | cons line rest ih =>
    unfold ruledAfter foldOnto
    by_cases content : line = []
    · have goesOn : rest ≠ [] := by
        rintro rfl
        exact ended (congrArg some content)
      have others := @ih (empty + 1) goesOn (ended_of_cons ended)
      simpa [content, foldedJoint, List.replicate_succ', Nat.add_assoc] using others
    · -- The first line with content follows one line feed less than there were empty lines.
      have others := length_foldedOnto_le content (ended_of_cons ended) fun _ => rfl
      simp only [foldedOnto, List.replicate_zero, List.nil_append, if_true] at others
      simp only [foldedJoint, List.isEmpty_iff, content, if_false, List.isEmpty_nil,
        if_true, List.nil_append, List.length_append, List.length_replicate]
      omega

/-- The lines of a folded scalar, of which the last is not empty, are folded by the rules exactly if
the first one is not empty either and no empty line stands next to an indented one. -/
theorem folded_by_rules_iff (ended : lines.getLast? ≠ some []) :
    foldLines lines = ruledText lines ↔ lines.head? ≠ some [] ∧ lines.IsChain Apart := by
  cases lines with
  | nil => simp [foldLines, ruledText, ruledAfter]
  | cons line rest =>
    unfold foldLines ruledText ruledAfter
    by_cases content : line = []
    · have goesOn : rest ≠ [] := by
        rintro rfl
        exact ended (congrArg some content)
      -- An empty first line loses a line feed, which nothing behind it makes up for.
      have missing := @length_foldOnto_lt _ 0 goesOn (ended_of_cons ended)
      have other : foldOnto [] rest ≠ ruledAfter 1 rest := by
        intro same
        exact absurd (congrArg List.length same) (Nat.ne_of_lt missing)
      simp [content, other]
    · have behind := foldedOnto_eq_iff content (ended_of_cons ended) fun _ => rfl
      simp only [foldedOnto, List.replicate_zero, List.nil_append, if_true] at behind
      simp [content, behind]

/-- Two lines become one, and an empty line in front of a third one becomes a line feed. -/
theorem lines_are_folded_by_rules :
    let lines := [['a'], ['b'], [], ['c']]
    lines.getLast? ≠ some [] ∧ foldLines lines = ruledText lines ∧
      ruledText lines = "a b\nc".toList := by
  intro lines
  have ended : lines.getLast? ≠ some [] := by decide
  exact ⟨ended, (folded_by_rules_iff ended).mpr (by decide), rfl⟩

/-- Two line feeds belong between a line and an indented one with an empty line between them, and
one belongs in front of a line with an empty one before it. In both places one is missing. -/
theorem line_feeds_are_missing :
    (readDocument .yaml ">\n  a\n\n   b\n" = .ok (.scalar (.string "a\n b\n") ⟨0, 11⟩) ∧
        ruledText [['a'], [], [' ', 'b']] = "a\n\n b".toList) ∧
      readDocument .yaml ">\n\n  a\n" = .ok (.scalar (.string "a\n") ⟨0, 6⟩) ∧
        ruledText [[], ['a']] = "\na".toList :=
  ⟨⟨rfl, rfl⟩, rfl, rfl⟩

end SpecTrace.Yaml
