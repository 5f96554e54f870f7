import SpecTrace.Proofs.Text.Boundaries
import SpecTrace.Proofs.Workspace.Sources
import SpecTrace.Proofs.Yaml.Placement

/-! How many nodes the aliases of a text are expanded to, and the places of what is read: the readers
of YAML nodes read every piece in its place, or find a fault in the text. -/

namespace SpecTrace

/-! ### Copied nodes -/

/-- Where moving on leads, no more characters are left. -/
theorem Cursor.Reaches.left_le {c d : Cursor} (reached : c.Reaches d) : d.left ≤ c.left := by
  obtain ⟨word, passed⟩ := reached
  unfold Cursor.left
  rw [passed.rest, List.length_append]
  exact Nat.le_add_left _ _

namespace Yaml

/-- Where the root of a text is read from: behind a byte order mark, directives and an opening
marker. -/
def rootStart (text : List Char) : Cursor :=
  let c := (Cursor.start text).skipByteOrderMark.skipDirectives (text.length + 1)
  if c.atMarker openingMarker then c.advance 3 else c

/-- The root of a text, with the state in which its reading ends. -/
def readTree (text : List Char) : Reading (Node × State) :=
  readBlockNode text maxDepth 0 .document ⟨rootStart text, [], 0⟩

/-- The number of nodes that the aliases of a text are expanded to. -/
def copiedNodes (text : List Char) : Nat :=
  match readTree text with
  | .ok (_, after) => after.copied
  | .error _ => 0

/-- A document is its root, and nothing stands behind it. -/
theorem read_eq_readTree (text : List Char) :
    read text = (do
      let (root, after) ← readTree text
      expectDocumentEnd after.cursor
      .ok root) := rfl

/-- The root is read from a position in the text. -/
theorem reaches_rootStart (text : List Char) : (Cursor.start text).Reaches (rootStart text) := by
  -- Only the mark, directives and the opening of the document are passed.
  have mark := (Cursor.start text).reaches_skipByteOrderMark
  have behind := mark.trans (Cursor.reaches_skipDirectives (text.length + 1) _)
  unfold rootStart
  dsimp only
  split
  · exact behind.trans (Cursor.reaches_advance 3 _)
  · exact behind

/-- A document has at most one node more than its text has characters and its aliases copy, and
they copy no more than their budget. -/
theorem count_le_copiedNodes {text : List Char} {root : Node} (answered : read text = .ok root) :
    root.count ≤ text.length + 1 + copiedNodes text ∧ copiedNodes text ≤ maxAliasNodes := by
  rw [read_eq_readTree] at answered
  obtain ⟨⟨node, after⟩, tree, answered⟩ := bind_eq_ok.mp answered
  obtain ⟨_, _, answered⟩ := bind_eq_ok.mp answered
  cases answered
  -- Nothing was copied in front of the root.
  have spends := readBlockNode_pays _ _ _ _ _ _ _ tree
  have size := spends.size
  have budget := spends.budget (Nat.zero_le _)
  have begun := (reaches_rootStart text).left_le
  have whole : (Cursor.start text).left = text.length := rfl
  have copied : copiedNodes text = after.copied := by rw [copiedNodes, tree]
  rw [copied]
  dsimp only at size budget
  omega

end Yaml

/-- However aliases are nested, a document has no more nodes than its text has bytes, one and a
hundred thousand. -/
theorem aliases_expand_within_bound {text : String} {root : Node}
    (read : readDocument .yaml text = .ok root) :
    root.count ≤ text.utf8ByteSize + 1 + 100000 := by
  obtain ⟨size, budget⟩ := Yaml.count_le_copiedNodes read
  have bytes := length_le_utf8ByteSize text
  unfold Yaml.maxAliasNodes at budget
  omega

/-- A list that is named twice counts three times. -/
theorem named_list_is_counted :
    ∃ root, readDocument .yaml "a: &x [1, 2]\nb: [*x, *x]\n" = .ok root ∧ root.count = 11 ∧
      root.count ≤ "a: &x [1, 2]\nb: [*x, *x]\n".utf8ByteSize + 1 + 100000 := by
  -- The tree itself need not be written out to count its nodes.
  have counted : (readDocument .yaml "a: &x [1, 2]\nb: [*x, *x]\n").toOption.map Node.count =
      some 11 := by decide +kernel
  cases read : readDocument .yaml "a: &x [1, 2]\nb: [*x, *x]\n" with
  | error e => rw [read] at counted; cases counted
  | ok root =>
    rw [read] at counted
    exact ⟨root, rfl, Option.some.inj counted, aliases_expand_within_bound read⟩

end SpecTrace

namespace SpecTrace.Yaml

/-! ### Placed nodes -/

variable {text : String} {document : List Char} {s read : State}
  {node : State → Reading (Node × State)}

/-- From a state on, a node was read in its place. -/
def PlacedNode (text : String) (s : State) (answer : Node × State) : Prop :=
  Placed text s [.child answer.1] answer.2.cursor.offset answer.2

/-- Every node that a reader answers is read in its place. -/
def Places (text : String) (node : State → Reading (Node × State)) : Prop :=
  ∀ s : State, s.Sound text → Concludes .yaml text (PlacedNode text s) (node s)

/-- A node is read in its place from a later position. -/
theorem Places.onward {c : Cursor} (places : Places text node) (sound : s.Sound text)
    (reached : s.cursor.Reaches c) :
    Concludes .yaml text (PlacedNode text s) (node (s.moveTo c)) :=
  (places _ (sound.moveTo reached)).imp fun _ placed => placed.earlier reached

/-! ### Properties and aliases -/

/-- A copied node lies in the text, as it is the one that was anchored. -/
theorem readAlias_places {c : Cursor} (inFlow : Bool) (sound : s.Sound text)
    (reached : s.cursor.Reaches c) (mark : c.peek = some '*') :
    Concludes .yaml text (PlacedNode text s) (readAlias inFlow (s.moveTo c)) := by
  have there := (sound.moveTo reached).stands
  have name := reached.trans (c.reaches_next.trans (c.next.reaches_advance
    (c.next.rest.takeWhile (isNameChar inFlow)).length))
  unfold readAlias
  dsimp only
  split
  · exact .fail there _
  · rename_i node found
    split
    · exact .fail there _
    · have behind := sound.moveTo name
      have fits := sound.anchored _ (lookupMember?_mem found)
      refine .ok ⟨name, ⟨behind.stands, behind.anchored⟩, List.forall_mem_singleton.mpr fits,
        behind.stands.isBoundary, name.offset_le, Nat.le_add_right _ _, ?_, ?_⟩
      · intro unmarked
        exact absurd (there.mem_of_peek mark) unmarked
      · -- Every alias is counted, so the places of the copy need not be looked at.
        intro same
        have one := count_pos node
        change s.copied + node.count = s.copied at same
        omega

/-- A tag leaves the place of a node as it is. -/
theorem applyTag_concludes {tag : Tag} {offset : Nat} (boundary : IsBoundary text offset)
    (node : Node) :
    Concludes .yaml text
      (fun tagged => tagged = node ∨ ∃ value other span,
        node = .scalar value span ∧ tagged = .scalar other span)
      (applyTag document tag offset node) := by
  unfold applyTag
  split
  · split
    · exact .ok (.inl rfl)
    · -- A scalar stays a scalar, whatever value the tag gives it.
      dsimp only
      split
      · exact .ok (.inr ⟨_, _, _, rfl, rfl⟩)
      · exact .fault boundary _
  · split
    · exact .ok (.inl rfl)
    · exact .fault boundary _

/-- A node is finished in its place, and is recorded there. -/
theorem finishNode_places {p : Properties} (fit : p.FitIn text) {child : Node}
    (placed : Placed text s [.child child] read.cursor.offset read) :
    Concludes .yaml text (PlacedNode text s) (finishNode document p child read) := by
  -- Whatever the tag makes of the node, the anchor is recorded for it.
  have recorded : ∀ tagged : Node, Placed text s [.child tagged] read.cursor.offset read →
      Concludes .yaml text (PlacedNode text s)
        (finishNode document { p with tag := none } tagged read) := by
    intro tagged placed
    unfold finishNode
    dsimp only
    split
    · exact .ok (placed.record _)
    · exact .ok placed
  unfold finishNode
  dsimp only
  split
  · rename_i tag offset tagged
    refine (applyTag_concludes (fit _ tagged) child).bind ?_
    rintro tagged (rfl | ⟨value, other, span, rfl, rfl⟩)
    · exact recorded _ placed
    · exact recorded _ (placed.retag other)
  · exact recorded child placed

/-! ### Flow collections -/

/-- A value that may be left out is read in its place. -/
theorem readFlowValue_places (places : Places text node) : Places text (readFlowValue node) := by
  intro s sound
  unfold readFlowValue
  split
  · -- Nothing stands there, so the value is empty.
    exact .ok (.empty sound)
  · split
    · exact .ok (.empty sound)
    · exact places s sound

/-- A value behind a colon is read in its place. -/
theorem readFlowValue_colon_places (places : Places text node) (sound : s.Sound text) :
    Concludes .yaml text (PlacedNode text s) (readFlowValue node s.next.skipLayout) :=
  (readFlowValue_places places).onward sound
    (s.cursor.reaches_next.trans (Cursor.reaches_skipLayout _))

/-- A pair in place of an item is read in its place. -/
theorem readPair_places (places : Places text node) {key : Node}
    (placed : Placed text s [.child key] read.cursor.offset read) :
    Concludes .yaml text (PlacedNode text s) (readPair document node key read) := by
  -- The pair begins where its key does, so it has the key in front of the value.
  unfold readPair
  split
  · refine (readFlowValue_colon_places places placed.sound).bind ?_
    rintro ⟨child, after⟩ behind
    exact .ok ((placed.append behind).pair _)
  · exact .fail placed.sound.stands _

/-- Behind a part of a flow collection more parts are read in their places, if they are. -/
theorem readFlowRest_places {α : Type} {close : Char} {more : State → Reading (List α × State)}
    {part : α} {pieces : List α → List Piece} {first : List Piece}
    (cons : ∀ rest, pieces (part :: rest) = first ++ pieces rest) (nil : pieces [] = [])
    (places : ∀ t : State, t.Sound text → Concludes .yaml text
      (fun (rest, after) => Placed text t (pieces rest) after.cursor.offset after) (more t))
    (placed : Placed text s first read.cursor.offset read) :
    Concludes .yaml text
      (fun (parts, after) => Placed text s (pieces parts) after.cursor.offset after)
      (readFlowRest close more part read) := by
  -- The parts end where the layout behind them does.
  have spaced := placed.later (Cursor.reaches_skipLayout _)
  have passed := (spaced.later (Cursor.reaches_next _)).toEnd
  unfold readFlowRest
  dsimp only
  split
  · -- More parts follow a comma.
    refine (places _ passed.sound).bind ?_
    rintro ⟨rest, after⟩ others
    refine .ok ?_
    rw [cons]
    exact (passed.append others).toEnd
  · split
    · refine .ok ?_
      rw [cons, nil, List.append_nil]
      exact passed
    · exact .fail spaced.sound.stands _

/-- The items of a flow sequence are read in their places. -/
theorem readFlowItems_places (places : Places text node) {began : Nat}
    (boundary : IsBoundary text began) (bound : Nat) (sound : s.Sound text) :
    Concludes .yaml text
      (fun (items, after) => Placed text s (items.map .child) after.cursor.offset after)
      (readFlowItems document node began bound s) := by
  -- By induction on the items that are looked for, from whatever state each one leaves behind.
  induction bound generalizing s with
  | zero => exact .fault boundary _
  | succ bound ih =>
    have layout := s.cursor.reaches_skipLayout
    have spaced := sound.moveTo layout
    unfold readFlowItems
    dsimp only
    split
    · exact .fault boundary _
    · -- The bracket closes an empty rest.
      have passed := layout.trans (Cursor.reaches_next _)
      exact .ok ((Placed.nothing sound).later passed).toEnd
    · refine (places.onward sound layout).bind ?_
      rintro ⟨first, behind⟩ placed
      have spaced := (placed.later (Cursor.reaches_skipLayout _)).toEnd
      dsimp only
      split
      · -- A colon behind the item makes a pair of it.
        refine (readPair_places places spaced).bind ?_
        rintro ⟨pair, last⟩ placed
        exact readFlowRest_places (fun _ => rfl) rfl (fun _ => ih) placed
      · exact readFlowRest_places (fun _ => rfl) rfl (fun _ => ih) spaced

/-- The entries of a flow mapping are read in their places. -/
theorem readFlowEntries_places (places : Places text node) {began : Nat}
    (boundary : IsBoundary text began) (bound : Nat) (seen : List String) (sound : s.Sound text) :
    Concludes .yaml text
      (fun (entries, after) =>
        Placed text s (entries.flatMap Entry.pieces) after.cursor.offset after)
      (readFlowEntries document node began bound seen s) := by
  -- By induction on the entries, as for items, with the keys that were seen.
  induction bound generalizing seen s with
  | zero => exact .fault boundary _
  | succ bound ih =>
    have layout := s.cursor.reaches_skipLayout
    have spaced := sound.moveTo layout
    unfold readFlowEntries
    dsimp only
    split
    · exact .fault boundary _
    · -- The brace closes an empty rest.
      have passed := layout.trans (Cursor.reaches_next _)
      exact .ok ((Placed.nothing sound).later passed).toEnd
    · exact .fail spaced.stands _
    · exact .fail spaced.stands _
    · exact .fail spaced.stands _
    · exact .fail spaced.stands _
    · exact .fail spaced.stands _
    · refine (readFlowScalar_spans _ spaced.stands).bind ?_
      rintro ⟨⟨value, keySpan⟩, after⟩ spanned
      have key := (Placed.key spaced spanned).earlier layout
      have named := spanned.fitsIn spaced.stands
      refine (Concludes.refuseRepeated named.start seen _).bind ?_
      intro _ _
      -- The value stands behind a colon, or is empty behind the key.
      have goesOn : ∀ (child : Node) (last : State),
          Placed text (s.moveTo after) [.child child] last.cursor.offset last →
          Concludes .yaml text
            (fun (entries, after) =>
              Placed text s (entries.flatMap Entry.pieces) after.cursor.offset after)
            (readFlowRest '\x7d' (readFlowEntries document node began bound
              (scalarKey document value keySpan :: seen))
              ⟨scalarKey document value keySpan, keySpan, child⟩ last) := by
        intro child last placed
        exact readFlowRest_places (fun _ => rfl) rfl (fun _ => ih _) (key.append placed).toEnd
      dsimp only
      split
      · -- A colon leads on to the value.
        have behind := key.later (Cursor.reaches_skipLayout _)
        refine (readFlowValue_colon_places places behind.sound).bind ?_
        rintro ⟨child, last⟩ placed
        exact goesOn child last (placed.earlier (Cursor.reaches_skipLayout _))
      · -- Without a colon the value is empty.
        have empty := (Placed.empty key.sound).later (Cursor.reaches_skipLayout _)
        have stop : keySpan.stop = after.offset := congrArg Span.stop spanned.span
        rw [stop]
        exact goesOn _ _ empty.toEnd

/-- The content of a flow node is read in its place if the nodes inside are. -/
theorem readFlowContent_places (places : Places text node) (p : Properties) :
    Places text (readFlowContent document node p) := by
  -- The first character decides between the two collections and a scalar. A collection begins at
  -- its bracket or brace, one byte in front of what is in it.
  intro s sound
  have one := s.cursor.reaches_next
  have inside := sound.moveTo one
  have boundary := sound.stands.isBoundary
  unfold readFlowContent
  dsimp only
  split
  · refine (readFlowItems_places places boundary _ inside).bind ?_
    rintro ⟨items, after⟩ placed
    exact .ok ((placed.earlier one).collect sound rfl)
  · refine (readFlowEntries_places places boundary _ [] inside).bind ?_
    rintro ⟨entries, after⟩ placed
    exact .ok ((placed.earlier one).collect sound rfl)
  · split
    · exact .ok (.empty sound)
    · refine (readFlowScalar_spans _ sound.stands).bind ?_
      rintro ⟨⟨value, span⟩, after⟩ spanned
      exact .ok (.scalar sound spanned)

/-- Every flow node is read in its place, whatever room there is for nesting. -/
theorem readFlowNode_places (document : List Char) (room : Nat) :
    Places text (readFlowNode document room) := by
  -- The room shrinks by one level of nesting.
  induction room with
  | zero =>
    intro s sound
    exact .fail sound.stands _
  | succ room ih =>
    intro s sound
    unfold readFlowNode
    refine (readProperties_fitIn true 3 Properties.fitIn_none sound.stands).bind ?_
    rintro ⟨p, c⟩ ⟨fit, passed⟩
    dsimp only
    split
    · -- An alias has no properties of its own.
      rename_i asterisk
      split
      · exact readAlias_places true sound passed asterisk
      · exact .fail (sound.moveTo passed).stands _
    · refine ((readFlowContent_places ih p).onward sound passed).bind ?_
      rintro ⟨content, behind⟩ placed
      exact finishNode_places fit placed

/-! ### Block collections -/

/-- The entries of a block mapping are read in their places. -/
theorem readBlockEntries_places (places : Places text node) (column bound : Nat)
    (seen : List String) (sound : s.Sound text) :
    Concludes .yaml text
      (fun (entries, after) => Placed text s (entries.1.flatMap Entry.pieces) entries.2 after)
      (readBlockEntries document node column bound seen s) := by
  -- By induction on the entries; without further ones nothing is read.
  induction bound generalizing seen s with
  | zero => exact .ok (.nothing sound)
  | succ bound ih =>
    unfold readBlockEntries
    refine (readKey_spans _ sound.stands).bind ?_
    rintro ⟨⟨key, keySpan⟩, c⟩ ⟨d, spanned, colon⟩
    have named := spanned.fitsIn sound.stands
    have keyed := ((Placed.key sound spanned).later colon).toEnd
    refine (Concludes.refuseRepeated named.start seen key).bind ?_
    intro _ _
    refine (places _ keyed.sound).bind ?_
    rintro ⟨child, behind⟩ placed
    -- The entry ends with its value, but not in front of its colon.
    have both := keyed.append (placed.tighten keyed.sound)
    have stop : max c.offset (max c.offset child.span.stop) = reach c.offset child :=
      Nat.max_eq_right (Nat.le_max_left _ _)
    have entry : Placed text s (Entry.pieces ⟨key, keySpan, child⟩) (reach c.offset child)
        behind.skipLayout := stop ▸ both.later (Cursor.reaches_skipLayout _)
    dsimp only
    split
    · exact .ok entry
    · split
      · exact .fail entry.sound.stands _
      · split
        · exact .fail entry.sound.stands _
        · refine (ih _ entry.sound).bind ?_
          rintro ⟨⟨rest, restStop⟩, last⟩ others
          exact .ok (entry.append others)

/-- The items of a block sequence are read in their places. -/
theorem readBlockItems_places (places : Places text node) (column bound : Nat)
    (sound : s.Sound text) :
    Concludes .yaml text
      (fun (items, after) => Placed text s (items.1.map .child) items.2 after)
      (readBlockItems node column bound s) := by
  -- By induction on the items; without further ones nothing is read.
  induction bound generalizing s with
  | zero => exact .ok (.nothing sound)
  | succ bound ih =>
    have one := s.cursor.reaches_next
    have dashed := sound.moveTo one
    unfold readBlockItems
    refine (places _ dashed).bind ?_
    rintro ⟨child, behind⟩ placed
    -- The item ends with its node, but not in front of its dash.
    have item : Placed text s [.child child] (reach s.cursor.next.offset child)
        behind.skipLayout :=
      ((placed.tighten dashed).earlier one).later (Cursor.reaches_skipLayout _)
    dsimp only
    split
    · exact .ok item
    · split
      · exact .fail item.sound.stands _
      · split
        · exact .ok item
        · refine (ih item.sound).bind ?_
          rintro ⟨⟨rest, restStop⟩, last⟩ others
          exact .ok (item.append others)

section

variable {children : Children}

/-- A block sequence is read in its place if its items are. -/
theorem readBlockSequence_places
    (blocks : ∀ margin place, Places text (children.block margin place)) :
    Places text (readBlockSequence document children) := by
  -- The sequence spans from where its items begin to where the last one ends.
  intro s sound
  unfold readBlockSequence
  refine (readBlockItems_places (blocks _ _) _ _ sound).bind ?_
  rintro ⟨⟨items, stop⟩, after⟩ placed
  exact .ok (placed.collect sound rfl)

/-- A block mapping is read in its place if its values are. -/
theorem readBlockMapping_places
    (blocks : ∀ margin place, Places text (children.block margin place)) :
    Places text (readBlockMapping document children) := by
  -- The mapping spans from where its entries begin to where the last one ends.
  intro s sound
  unfold readBlockMapping
  refine (readBlockEntries_places (blocks _ _) _ _ [] sound).bind ?_
  rintro ⟨⟨entries, stop⟩, after⟩ placed
  exact .ok (placed.collect sound rfl)

/-- A mapping or a scalar without a mark of its own is read in its place. -/
theorem readMappingOrScalar_places
    (blocks : ∀ margin place, Places text (children.block margin place)) (margin : Nat)
    (sameLine : Bool) (p : Properties) :
    Places text (readMappingOrScalar document children margin sameLine p) := by
  intro s sound
  unfold readMappingOrScalar
  refine (atMappingKey_concludes _ sound.stands).bind ?_
  -- A key is looked for before a mapping is begun.
  intro isKey _
  split
  · split
    · exact .fail sound.stands _
    · split
      · exact .fail sound.stands _
      · exact readBlockMapping_places blocks s sound
  · split
    · refine (readQuoted_spans _ sound.stands).bind ?_
      rintro ⟨⟨string, span⟩, after⟩ spanned
      refine (expectLineEnd_concludes (spanned.reached.standsIn sound.stands)).bind ?_
      intro _ _
      exact .ok (.scalar sound spanned)
    · refine (readPlain_spans _ margin sound.stands).bind ?_
      rintro ⟨_, after⟩ ⟨value, span, rfl, spanned⟩
      exact .ok (.scalar sound spanned)

/-- A node with nothing but the end of its line behind it is read in its place if the node is. -/
theorem line_end_places {reading : Reading (Node × State)}
    (places : Concludes .yaml text (PlacedNode text s) reading) :
    Concludes .yaml text (PlacedNode text s)
      (do
        let (child, t) ← reading
        expectLineEnd t.cursor
        .ok (child, t)) := by
  -- The line end is only looked at, so the node is the one that was read.
  refine places.bind ?_
  rintro ⟨child, after⟩ placed
  refine (expectLineEnd_concludes placed.sound.stands).bind ?_
  intro _ _
  exact .ok placed

/-- A block scalar is read in its place. -/
theorem readBlockScalar_places (bound margin : Nat) :
    Places text (fun s => do
      let (node, after) ← readBlockScalar bound margin s.cursor
      .ok (node, s.moveTo after)) := by
  -- A scalar is in its place once it is spanned.
  intro s sound
  refine (readBlockScalar_spans bound margin sound.stands).bind ?_
  rintro ⟨_, after⟩ ⟨value, span, rfl, spanned⟩
  exact .ok (.scalar sound spanned)

/-- The content of a block node is read in its place if the nodes inside are, and an empty one
stands where the node was looked for. -/
theorem readBlockContent_places
    (blocks : ∀ margin place, Places text (children.block margin place))
    (flows : Places text children.flow) (margin : Nat) (place : Place) (crossed : Bool)
    (p : Properties) {c : Cursor} (sound : s.Sound text) (reached : s.cursor.Reaches c) :
    Concludes .yaml text (PlacedNode text s)
      (readBlockContent document children margin place crossed p s.cursor.offset (s.moveTo c)) := by
  have there := (sound.moveTo reached).stands
  -- Where nothing stands, the node is empty in front of the layout.
  have empty := ((Placed.empty sound).later reached).toEnd
  have sequences : Concludes .yaml text (PlacedNode text s)
      (readBlockSequence document children (s.moveTo c)) :=
    (readBlockSequence_places blocks).onward sound reached
  unfold readBlockContent
  dsimp only
  split
  · exact .ok empty
  · split
    · split
      · exact sequences
      · exact .ok empty
    · split
      · split
        · exact .fail there _
        · exact sequences
      · split
        · exact .fail there _
        · -- The cases follow the character that the node begins with.
          split
          · rename_i asterisk
            split
            · exact .fail there _
            · exact line_end_places (readAlias_places false sound reached asterisk)
          · exact .fail there _
          · exact .fail there _
          · exact line_end_places (flows.onward sound reached)
          · exact line_end_places (flows.onward sound reached)
          · exact (readBlockScalar_places _ _).onward sound reached
          · exact (readBlockScalar_places _ _).onward sound reached
          · exact (readMappingOrScalar_places blocks _ _ _).onward sound reached

end

/-- Every block node is read in its place, whatever room there is for nesting. -/
theorem readBlockNode_places (document : List Char) (room margin : Nat) (place : Place) :
    Places text (readBlockNode document room margin place) := by
  -- The room shrinks by one level of nesting.
  induction room generalizing margin place with
  | zero =>
    intro s sound
    exact .fail sound.stands _
  | succ room ih =>
    intro s sound
    have layout := s.cursor.reaches_skipLayout
    unfold readBlockNode
    dsimp only
    have there := layout.standsIn sound.stands
    have flows := @readFlowNode_places text document room
    refine (readProperties_fitIn false 3 Properties.fitIn_none there).bind ?_
    rintro ⟨p, c⟩ ⟨fit, passed⟩
    let children : Children := ⟨readBlockNode document room, readFlowNode document room⟩
    have blocks : ∀ margin place, Places text (children.block margin place) := ih
    refine (readBlockContent_places blocks flows margin place _ p sound
      (layout.trans passed)).bind ?_
    rintro ⟨content, behind⟩ placed
    exact finishNode_places fit placed

/-! ### Documents -/

/-- What may not stand behind a document is blamed where it stands. -/
theorem expectDocumentEnd_concludes {c : Cursor} (stands : c.StandsIn text.toList) :
    Concludes .yaml text (fun _ => True) (expectDocumentEnd c) := by
  have layout := c.reaches_skipLayout
  -- One closing marker may stand there.
  have behind : c.Reaches (if c.skipLayout.1.atMarker closingMarker then
      (c.skipLayout.1.advance 3).skipLayout.1 else c.skipLayout.1) := by
    split
    · exact (layout.trans (Cursor.reaches_advance 3 _)).trans (Cursor.reaches_skipLayout _)
    · exact layout
  have there := behind.standsIn stands
  unfold expectDocumentEnd
  dsimp only
  generalize (if c.skipLayout.1.atMarker closingMarker then
    (c.skipLayout.1.advance 3).skipLayout.1 else c.skipLayout.1) = last at there ⊢
  split
  · exact .fail there _
  · split
    · exact .fail there _
    · exact .ok trivial

/-- The root of a text is read in its place. -/
theorem readTree_places (text : String) :
    Concludes .yaml text
      (fun (root, after) => ∃ s : State, s.copied = 0 ∧
        Placed text s [.child root] after.cursor.offset after)
      (readTree text.toList) := by
  have begun := (reaches_rootStart text.toList).standsIn (Cursor.standsIn_start _)
  -- At the start no node is anchored, and nothing was copied.
  have sound : State.Sound text ⟨rootStart text.toList, [], 0⟩ := ⟨begun, List.forall_mem_nil _⟩
  refine (readBlockNode_places _ maxDepth 0 .document _ sound).imp ?_
  intro answer placed
  exact ⟨_, rfl, placed⟩

/-- A text is refused at one of its boundaries, or at an escaped character. -/
theorem read_concludes (text : String) :
    Concludes .yaml text (fun _ => True) (Yaml.read text.toList) := by
  rw [read_eq_readTree]
  refine (readTree_places text).bind ?_
  rintro ⟨root, after⟩ ⟨s, _, placed⟩
  -- Behind the root only a closing marker and layout may follow.
  refine (expectDocumentEnd_concludes placed.sound.stands).bind ?_
  intro _ _
  exact .ok trivial

end SpecTrace.Yaml
