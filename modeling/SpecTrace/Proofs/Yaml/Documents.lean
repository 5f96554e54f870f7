import SpecTrace.Document.Format
import SpecTrace.Proofs.Json.Escapes
import SpecTrace.Proofs.Yaml.InlineValues

/-! A text with nothing but white space around its root is read as the root, so that a text that is
read as JSON is read as YAML, with the same tree. -/

namespace SpecTrace.Yaml

open Grammar

variable {c d : Cursor} {text space : List Char}

/-- At the end of a text no marker stands. -/
theorem not_marker_of_end (nothing : c.rest = []) {marker : List Char} (filled : marker ≠ []) :
    c.atMarker marker = false := by
  unfold Cursor.atMarker Cursor.startsWithMarker Cursor.startsWith
  -- Only the empty marker would stand there.
  rw [nothing]
  cases marker with
  | nil => exact absurd rfl filled
  | cons _ _ => simp

/-- Layout does not go on at the end of a text. -/
theorem stops_of_end (nothing : c.rest = []) : Stops inLayout c.rest := by
  rw [nothing]
  exact nofun

/-- Nothing but white space may stand behind the document. -/
theorem expectDocumentEnd_of_space (blank : IsSpace c.rest) : expectDocumentEnd c = .ok () := by
  -- The white space reaches up to the end, where no marker stands.
  obtain ⟨d, passed, nothing⟩ := c.passes_rest
  unfold expectDocumentEnd
  simp only [skipLayout_of_passes blank passed (stops_of_end nothing),
    not_marker_of_end nothing (by decide : closingMarker ≠ []),
    not_marker_of_end nothing (by decide : openingMarker ≠ []), Bool.false_eq_true, if_false]
  simp [Cursor.atEnd, nothing]

/-- Where a node opens there is no directive. -/
theorem skipDirectives_opens {bound : Nat} (passed : c.Passes space d) (blank : IsSpace space)
    (opens : Opens d) : c.skipDirectives (bound + 1) = d := by
  have notDirective : d.peek ≠ some '%' := opens.noMark _ (by simp)
  unfold Cursor.skipDirectives
  simp [skipLayout_of_passes blank passed opens.stops, notDirective]

/-- In front of a node there is no byte order mark. -/
theorem skipByteOrderMark_opens (passed : c.Passes space d) (blank : IsSpace space)
    (opens : Opens d) : c.skipByteOrderMark = c := by
  unfold Cursor.skipByteOrderMark
  rw [if_neg]
  intro mark
  -- The text begins with white space or with the node, and neither is the mark.
  cases space with
  | nil =>
    rw [← passed.eq_of_nil] at mark
    exact opens.noMark _ (by simp) mark
  | cons first rest =>
    have there := Option.some.inj (passed.peek.symm.trans mark)
    rcases blank first List.mem_cons_self with rfl | rfl | rfl | rfl <;> simp at there

/-- A text is read as the block node that opens behind its first white space, if white space is all
that stands behind the node. -/
theorem read_of_content {root : Node} {s : State}
    (ahead : (Cursor.start text).skipByteOrderMark.Passes space c) (blank : IsSpace space)
    (opens : Opens c)
    (content : readBlockContent text ⟨readBlockNode text 511, readFlowNode text 511⟩ 0 .document
      false .none c.offset ⟨c, [], 0⟩ = .ok (root, s))
    (closes : IsSpace s.cursor.rest) : read text = .ok root := by
  have notMarker : c.atMarker openingMarker = false := by
    have neither := opens.notMarker
    simp only [Cursor.atDocumentMarker, Bool.or_eq_false_iff] at neither
    exact neither.1
  -- The root is read from where it opens, so that no layout is skipped any more.
  have block : readBlockNode text maxDepth 0 .document ⟨c, [], 0⟩ = .ok (root, s) :=
    (readBlockNode_opens (.refl c) .nil opens).trans content
  unfold read
  simp only [skipDirectives_opens ahead blank opens, notMarker, Bool.false_eq_true, if_false, block,
    bind, Except.bind, expectDocumentEnd_of_space closes]

end SpecTrace.Yaml

namespace SpecTrace

/-! ### JSON texts -/

open Grammar

namespace Yaml

/-- A document of the grammar that is nested at most 510 deep is read as its tree. -/
theorem read_of_document {text : List Char} {root : Node} (document : Document codeUnit? text root)
    (distinct : root.Distinct) (fits : root.toJson.depth ≤ 510) : read text = .ok root := by
  have element := JsonText.document_iff.mp document
  have mark := Cursor.left_skipByteOrderMark_le (Cursor.start text)
  have whole : (Cursor.start text).left = text.length := rfl
  obtain ⟨last, passed, nothing⟩ := (Cursor.start text).skipByteOrderMark.passes_rest
  generalize (Cursor.start text).skipByteOrderMark.rest = rest at element passed
  -- The value stands between white space.
  cases element with
  | mk opens derived closes =>
    obtain ⟨c, ahead, more⟩ := passed.split
    obtain ⟨after, middle, ends⟩ := more.split
    obtain ⟨first, starts⟩ := starts_of_value derived middle
    have left := ahead.left
    have enough : (State.mk c [] 0).cursor.left ≤ text.length := by
      show c.left ≤ _
      omega
    -- Behind the root the text ends, so no line continues it.
    have line : LineEnds 0 after :=
      lineEnds_of_space closes ends (stops_of_end nothing) (Or.inl nothing)
    have content := @readBlockContent_value after _ text ⟨c, [], 0⟩ 0 _ 511 c.offset root .document
      derived middle ahead.offset line enough distinct (Nat.succ_le_succ fits)
    refine read_of_content ahead opens starts.opens content ?_
    show IsSpace after.rest
    rw [ends.rest, nothing, List.append_nil]
    exact closes

end Yaml

/-- A text that is read as JSON, has no unicode escape of a surrogate and is nested at most 510 deep
is read as YAML with the same tree. -/
theorem yaml_reads_json {text : String} {root : Node}
    (answered : readDocument .json text = .ok root)
    (lone : ∀ digits ∈ unicodeEscapes text.toList, ∀ unit, readNatural? 16 digits = some unit →
      isSurrogate unit = false)
    (fits : root.toJson.depth ≤ 510) : readDocument .yaml text = .ok root := by
  -- What is read as JSON is derived with a reader that takes surrogates as well.
  -- Two levels of the room are taken by the block node and the flow node around the value.
  obtain ⟨document, distinct, _⟩ := JsonText.read_iff.mp answered
  refine Yaml.read_of_document (document.carries.agrees _ fun digits member unit read => ?_) distinct
    fits
  -- A code unit that is no surrogate stands for a character alone.
  exact Option.filter_eq_some_iff.mpr ⟨read, by simp [lone digits member unit read]⟩

/-- An object with a unicode escape and an empty object in it is read as the same tree. -/
theorem object_is_read_alike :
    ∃ root, readDocument .json "\x7b\"k\": [-10, \"\\u00e9\\n\"], \"l\": \x7b\x7d\x7d" = .ok root ∧
      readDocument .yaml "\x7b\"k\": [-10, \"\\u00e9\\n\"], \"l\": \x7b\x7d\x7d" = .ok root := by
  -- There is one escape, and it is no surrogate.
  have escapes : unicodeEscapes "\x7b\"k\": [-10, \"\\u00e9\\n\"], \"l\": \x7b\x7d\x7d".toList =
      [['0', '0', 'e', '9']] := by decide +kernel
  let items : List Node :=
    [.scalar (.number (.int (-10))) ⟨7, 10⟩, .scalar (.string "é\n") ⟨12, 22⟩]
  refine ⟨.mapping [⟨"k", ⟨1, 4⟩, .sequence items ⟨6, 23⟩⟩, ⟨"l", ⟨25, 28⟩, .mapping [] ⟨30, 32⟩⟩]
    ⟨0, 33⟩, rfl, yaml_reads_json rfl (fun digits member unit read => ?_) (by decide)⟩
  rw [escapes, List.mem_singleton] at member
  subst member
  cases read
  rfl

end SpecTrace
