import SpecTrace.Proofs.Respelling.Documents
import SpecTrace.Proofs.Respelling.Json

/-! How the lines of a document end does not matter. -/

namespace SpecTrace

/-- The text with another mark for every line feed. -/
def respellFeeds (mark text : List Char) : List Char :=
  text.flatMap fun c => if c = '\n' then mark else [c]

/-- The text with another mark at the end of every line. -/
def withLineEnds (mark : List Char) (text : String) : String :=
  String.ofList (respellFeeds mark text.toList)

/-- A pair of a carriage return and a line feed, or a lone carriage return. -/
def ReturnMark (mark : List Char) : Prop :=
  mark = ['\r', '\n'] ∨ mark = ['\r']

/-- The line of a text at which the node at a pointer starts, if there is such a node. -/
def lineAt (text : String) (root : Node) (pointer : Pointer) : Option Nat :=
  (root.find? pointer).map fun node => (LineIndex.ofText text.toList).lineFor node.span.start

@[simp] theorem respellFeeds_nil (mark : List Char) : respellFeeds mark [] = [] := rfl

/-- One character is respelled after the other. -/
theorem respellFeeds_cons (mark : List Char) (c : Char) (rest : List Char) :
    respellFeeds mark (c :: rest) =
      (if c = '\n' then mark else [c]) ++ respellFeeds mark rest := rfl

namespace ReturnMark

variable {mark : List Char}

/-- The mark takes a character at least. -/
theorem length_pos (marks : ReturnMark mark) : 0 < mark.length := by
  rcases marks with rfl | rfl <;> decide

/-- The respelled text is as long at least. -/
theorem length_le (marks : ReturnMark mark) (text : List Char) :
    text.length ≤ (respellFeeds mark text).length := by
  -- Character by character, each of which is kept or becomes a mark.
  induction text with
  | nil => simp
  | cons c rest ih =>
    have size := marks.length_pos
    rw [respellFeeds_cons, List.length_append, List.length_cons]
    split
    · omega
    · rw [List.length_singleton]
      omega

/-- In front of the respelled text, the mark ends a line. -/
theorem terminator (marks : ReturnMark mark) (rest : List Char) :
    Terminator mark (respellFeeds mark rest) := by
  rcases marks with rfl | rfl
  · exact .pair _
  · -- Every line feed is respelled, so none comes first.
    refine .lone fun feed => ?_
    have member := List.mem_of_mem_head? feed
    simp only [respellFeeds, List.mem_flatMap] at member
    obtain ⟨c, _, held⟩ := member
    split at held
    · simp at held
    · rename_i other
      exact other (List.mem_singleton.mp held).symm

/-- A text without carriage returns keeps its lines. -/
theorem sameLines (marks : ReturnMark mark) {text : List Char} (feeds : '\r' ∉ text) :
    SameLines text.length text (respellFeeds mark text) := by
  induction text with
  | nil => exact .done
  | cons c rest ih =>
    obtain ⟨first, others⟩ := not_or.mp (mt List.mem_cons.mpr feeds)
    rw [respellFeeds_cons]
    -- A line feed ends a line on both sides, any other character is kept.
    split
    · rename_i feed
      subst feed
      exact .line (.feed rest) (marks.terminator rest) (ih others)
    · rename_i other
      exact .char (by simp [isBreak, other, Ne.symm first]) (ih others)

end ReturnMark

namespace Respelling

variable {way : Respelling} {n : Nat} {text respelt : String}

/-- In either format, documents that begin alike are read alike. -/
theorem readDocument_agree (format : Format) (spelled : text.toList = way.text)
    (respelled : respelt.toList = way.respelt)
    (alike : way.Alike True n (Cursor.start way.text) (Cursor.start way.respelt)) :
    way.Agree way.Same (readDocument format text) (readDocument format respelt) := by
  -- What the byte order mark leaves begins alike too, and there each format has its own theorem.
  unfold readDocument
  rw [spelled, respelled]
  have begun := alike.skipByteOrderMark
  cases format with
  | json => exact JsonText.read_agree (begun.narrow fun _ => trivial)
  | yaml => exact Yaml.read_agree begun

/-- Nodes that are the same have the same lines at every pointer, if the whole texts have. -/
theorem Same.lineAt_eq {node other : Node} (same : way.Same node other)
    (spelled : text.toList = way.text) (respelled : respelt.toList = way.respelt)
    (whole : SameLines n way.text way.respelt) (pointer : Pointer) :
    lineAt respelt other pointer = lineAt text node pointer := by
  unfold lineAt
  rw [spelled, respelled]
  have found := same.find? pointer
  generalize node.find? pointer = here at found
  generalize other.find? pointer = there at found
  -- At a pointer both trees have a node, or neither has.
  cases found with
  | none => rfl
  | some same => exact congrArg some (same.span.start.lineFor_eq whole)

end Respelling

/-- A text in which every line ends in a pair of a carriage return and a line feed, or in a lone
carriage return, is read like the text in which every line ends in a line feed: neither is read or
both are, with the same value and with every node on the same line. -/
theorem line_endings_do_not_matter (format : Format) {text : String} (feeds : '\r' ∉ text.toList)
    (tagless : '!' ∉ text.toList) {mark : List Char} (marks : ReturnMark mark) :
    (∀ e, readDocument format text = .error e →
      ∃ f, readDocument format (withLineEnds mark text) = .error f) ∧
    ∀ root, readDocument format text = .ok root →
      ∃ other, readDocument format (withLineEnds mark text) = .ok other ∧
        other.toJson = root.toJson ∧
        ∀ pointer, lineAt (withLineEnds mark text) other pointer = lineAt text root pointer := by
  -- The two texts are spellings of the same lines, and there is no tag whose text could differ.
  let way : Respelling := ⟨text.toList, respellFeeds mark text.toList, False, .inr tagless⟩
  have whole : SameLines text.toList.length way.text way.respelt := marks.sameLines feeds
  have alike : way.Alike True text.toList.length (Cursor.start way.text)
      (Cursor.start way.respelt) :=
    ⟨whole, False.elim, ⟨Nat.le_refl _, marks.length_le _⟩, Cursor.standsIn_start _,
      Cursor.standsIn_start _, .inl rfl⟩
  -- The readings agree, and nodes that are the same have the same lines.
  have respelled : (withLineEnds mark text).toList = way.respelt := String.toList_ofList
  have agree := Respelling.readDocument_agree format rfl respelled alike
  generalize readDocument format text = reading at agree
  generalize readDocument format (withLineEnds mark text) = other at agree
  cases agree with
  | error _ => exact ⟨fun _ _ => ⟨_, rfl⟩, fun _ read => by cases read⟩
  | ok same =>
    refine ⟨fun _ read => (by cases read), fun root read => ?_⟩
    cases read
    exact ⟨_, rfl, same.toJson_eq, same.lineAt_eq rfl respelled whole⟩

/-- A list is read with the same items on the same lines when its lines end in pairs. -/
theorem list_is_read_with_returns :
    ∃ other, readDocument .yaml (withLineEnds ['\r', '\n'] "a:\n- b # c\n- d\n") = .ok other ∧
      other.toJson = .object [("a", .array [.string "b", .string "d"])] ∧
      lineAt (withLineEnds ['\r', '\n'] "a:\n- b # c\n- d\n") other ["a", "1"] = some 3 := by
  have feeds : '\r' ∉ "a:\n- b # c\n- d\n".toList := by decide
  have tagless : '!' ∉ "a:\n- b # c\n- d\n".toList := by decide
  -- The text with line feeds is read first, and tells the value and the line.
  obtain ⟨root, read, value, line⟩ : ∃ root, readDocument .yaml "a:\n- b # c\n- d\n" = .ok root ∧
      root.toJson = .object [("a", .array [.string "b", .string "d"])] ∧
      lineAt "a:\n- b # c\n- d\n" root ["a", "1"] = some 3 := ⟨_, rfl, rfl, rfl⟩
  obtain ⟨other, respelt, same, lines⟩ :=
    (line_endings_do_not_matter .yaml feeds tagless (.inl rfl)).2 root read
  exact ⟨other, respelt, same.trans value, (lines _).trans line⟩

end SpecTrace
