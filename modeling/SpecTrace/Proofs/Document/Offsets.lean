import SpecTrace.Proofs.Json.Faults
import SpecTrace.Proofs.Json.Parts
import SpecTrace.Proofs.Yaml.PlacedNodes

/-! The offsets that reading a text gives, in either format: where the nodes of a document stand,
and where a text that is refused is at fault. -/

namespace SpecTrace

variable {format : Format} {text : String}

/-! ### Nodes -/

/-- The text is YAML, and reading it copies a node in place of an alias. Every alias that is read
copies one node at least, so a text without copies has no alias. -/
def UsesAlias (format : Format) (text : String) : Prop :=
  format = .yaml ∧ 0 < Yaml.copiedNodes text.toList

/-- The nodes of JSON text lie in it and are nested. -/
theorem JsonText.read_placed {root : Node} (answered : JsonText.read text.toList = .ok root) :
    root.Throughout (Node.FitsIn text) ∧ root.Throughout Node.Nested := by
  have derived := JsonText.throughout_read answered
  refine ⟨fun place member => (derived place member).2.2.fitsIn, ?_⟩
  intro place member
  -- A node is derived from a part of the text, and every derived node is nested.
  obtain ⟨front, word, back, whole, value⟩ := (derived place member).2.2
  exact value.nested

/-- The nodes of YAML text lie in it, and are nested unless an alias is copied. -/
theorem Yaml.read_placed {root : Node} (answered : Yaml.read text.toList = .ok root) :
    root.Throughout (Node.FitsIn text) ∧
      (copiedNodes text.toList = 0 → root.Throughout Node.Nested) := by
  rw [read_eq_readTree] at answered
  obtain ⟨⟨node, after⟩, tree, answered⟩ := bind_eq_ok.mp answered
  obtain ⟨_, _, answered⟩ := bind_eq_ok.mp answered
  cases answered
  have concludes := readTree_places text
  have copied : copiedNodes text.toList = after.copied := by rw [copiedNodes, tree]
  rw [tree] at concludes
  cases concludes with
  | ok holds =>
    obtain ⟨s, fresh, placed⟩ := holds
    refine ⟨placed.fits (.child _) List.mem_cons_self, ?_⟩
    -- Without copies the root is tidy, and so is everything below it.
    intro none
    have same : after.copied = s.copied := by rw [fresh, ← copied, none]
    exact (placed.tidy same).1.nested (.child _) List.mem_cons_self

/-- A text without an asterisk uses no alias. -/
theorem not_usesAlias (unmarked : '*' ∉ text.toList) : ¬UsesAlias format text := by
  -- An alias that is used leaves a count of copied nodes, and the readers account for that.
  rintro ⟨_, used⟩
  have concludes := Yaml.readTree_places text
  unfold Yaml.copiedNodes at used
  cases tree : Yaml.readTree text.toList with
  | error e =>
    rw [tree] at used
    cases used
  | ok answer =>
    rw [tree] at concludes used
    cases concludes with
    | ok holds =>
      obtain ⟨s, fresh, placed⟩ := holds
      -- Copies need an asterisk, so as many were copied at the end as at the start.
      have same := placed.unmarked unmarked
      dsimp only at used
      omega

/-- Every node and every key of a document spans a part of its text, between two boundaries. Unless
an alias is used, every node has its keys and its children within it, each key in front of its value
and each entry or item in front of the next one. -/
theorem spans_fit_and_nest {root : Node} (read : readDocument format text = .ok root) :
    (∀ place ∈ root.descendants, place.2.FitsIn text) ∧
      (¬UsesAlias format text → ∀ place ∈ root.descendants, place.2.Nested) := by
  -- JSON has no alias, so its nodes are nested outright; for YAML the number of aliases used is
  -- zero.
  cases format with
  | json =>
    obtain ⟨fits, nested⟩ := JsonText.read_placed read
    exact ⟨fits, fun _ => nested⟩
  | yaml =>
    obtain ⟨fits, nested⟩ := Yaml.read_placed read
    refine ⟨fits, ?_⟩
    intro unused
    exact nested (Nat.eq_zero_of_not_pos fun used => unused ⟨rfl, used⟩)

/-- A pair in a list, below a key of two bytes, is nested in the list. -/
theorem pair_in_list_is_nested :
    ∃ root, readDocument .yaml "é:\n- [b, c: 2]\n" = .ok root ∧ root.descendants.length = 6 ∧
      (∀ place ∈ root.descendants, place.2.FitsIn "é:\n- [b, c: 2]\n") ∧
      ∀ place ∈ root.descendants, place.2.Nested := by
  -- The tree is written down and read by evaluation; that it fits and nests is the theorem.
  let pair : Node :=
    .mapping [⟨"c", ⟨10, 11⟩, .scalar (.number (.int 2)) ⟨13, 14⟩⟩] ⟨10, 14⟩
  let list : Node := .sequence [.scalar (.string "b") ⟨7, 8⟩, pair] ⟨6, 15⟩
  let root : Node := .mapping [⟨"é", ⟨0, 2⟩, .sequence [list] ⟨4, 15⟩⟩] ⟨0, 15⟩
  have read : readDocument .yaml "é:\n- [b, c: 2]\n" = .ok root := rfl
  have unused : ¬UsesAlias .yaml "é:\n- [b, c: 2]\n" := not_usesAlias (by decide)
  obtain ⟨fits, nested⟩ := spans_fit_and_nest read
  exact ⟨root, read, rfl, fits, nested unused⟩

/-! ### Faults -/

/-- A text is read, or there is a fault in it. -/
theorem readDocument_concludes (format : Format) (text : String) :
    Concludes format text (fun _ => True) (readDocument format text) := by
  cases format with
  | json => exact JsonText.read_concludes text
  | yaml => exact Yaml.read_concludes text

/-- A text that is refused is at fault at one of its boundaries, unless it is YAML and the fault is
an escaped character of several bytes. -/
theorem faults_point_into_text {e : SyntaxError} (read : readDocument format text = .error e) :
    e.offset ≤ text.utf8ByteSize ∧
      (IsBoundary text e.offset ↔ ¬(format = .yaml ∧ e.SplitsEscape text)) := by
  have concludes := readDocument_concludes format text
  rw [read] at concludes
  cases concludes with
  | error blames =>
    refine ⟨blames.le, ?_⟩
    -- A fault is at a boundary, or it splits a character, and no boundary does.
    constructor
    · rintro boundary ⟨_, splits⟩
      exact splits.not_isBoundary boundary
    · exact blames.resolve_right

/-- A sequence that does not end is at fault at its bracket, behind a character of two bytes. -/
theorem open_bracket_is_blamed :
    readDocument .yaml "é: [" = .error ⟨4, .unterminatedFlowSequence⟩ ∧
      4 ≤ "é: [".utf8ByteSize ∧ IsBoundary "é: [" 4 := by
  -- The fault is no invalid escape, so its offset is a boundary by the theorem.
  have read : readDocument .yaml "é: [" = .error ⟨4, .unterminatedFlowSequence⟩ := rfl
  obtain ⟨inside, boundary⟩ := faults_point_into_text read
  refine ⟨read, inside, boundary.mpr ?_⟩
  rintro ⟨_, fault, _⟩
  cases fault

/-- The fault of an escaped character of two bytes is found between them, where JSON text is at
fault in front of the character. -/
theorem escaped_letter_is_split :
    readDocument .yaml "\"\\é\"" = .error ⟨3, .invalidEscapeSequence⟩ ∧
      readDocument .json "\"\\é\"" = .error ⟨2, .invalidEscape⟩ ∧
      ¬IsBoundary "\"\\é\"" 3 ∧ IsBoundary "\"\\é\"" 2 :=
  ⟨rfl, rfl, by decide, by decide⟩

end SpecTrace
