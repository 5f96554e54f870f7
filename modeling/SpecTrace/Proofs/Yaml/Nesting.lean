import SpecTrace.Proofs.Document.Nesting
import SpecTrace.Proofs.Document.Offsets
import SpecTrace.Proofs.Json.Escapes

/-! The limit of nesting: how many collections the nodes of a document lie in, in either format. -/

namespace SpecTrace

/-- Whatever a reading answers satisfies a condition. -/
def Ensures {α : Type} (holds : α → Prop) (reading : Reading α) : Prop :=
  ∀ a, reading = .ok a → holds a

namespace Ensures

variable {α β : Type} {holds others : α → Prop} {further : β → Prop} {reading : Reading α}

/-- An answer that satisfies the condition ensures it. -/
theorem ok {a : α} (here : holds a) : Ensures holds (.ok a) := by
  intro b same
  cases same
  exact here

/-- A fault ensures everything. -/
theorem error (e : SyntaxError) : Ensures holds (.error e) := nofun

/-- A fault at a position ensures everything. -/
theorem fail (c : Cursor) (fault : SyntaxFault) : Ensures holds (c.fail fault) := nofun

/-- A reading in two steps ensures what the second step does. -/
theorem bind {next : α → Reading β} (first : Ensures holds reading)
    (second : ∀ a, holds a → Ensures further (next a)) : Ensures further (reading >>= next) := by
  intro b answered
  obtain ⟨a, one, two⟩ := bind_eq_ok.mp answered
  exact second a (first a one) b two

/-- Whatever the first step answers, the second one may ensure a condition on its own. -/
theorem skip {next : α → Reading β} (second : ∀ a, Ensures further (next a)) :
    Ensures further (reading >>= next) := by
  intro b answered
  obtain ⟨a, _, two⟩ := bind_eq_ok.mp answered
  exact second a b two

/-- What follows from the condition is ensured as well. -/
theorem imp (first : Ensures holds reading) (weaker : ∀ a, holds a → others a) :
    Ensures others reading :=
  fun a answered => weaker a (first a answered)

end Ensures

/-- What a reading concludes is ensured. -/
theorem Concludes.ensures {α : Type} {format : Format} {text : String} {holds : α → Prop}
    {reading : Reading α} (concludes : Concludes format text holds reading) :
    Ensures holds reading := by
  cases concludes with
  | ok here => exact .ok here
  | error _ => exact .error _

/-! ### Levels around a node -/

/-- A node that was read up to an offset, inside of collections that began at some offsets. Each
node in it lies in at most 512 of both, but for those that do not count. -/
def Node.Shallow (text : String) (opened : List Nat) (stop : Nat) (node : Node) : Prop :=
  ∀ around inner, node.Path around inner → inner.span.start ≤ stop ∧
    around.length + inner.offsetsBefore opened ≤
      512 + copiedInto inner around + pairsAmong text.toList around

/-- A pair in a collection that began with a bracket at an offset; its value was read inside of the
collection only. -/
def Node.ShallowPair (text : String) (opened : List Nat) (began stop : Nat) (node : Node) : Prop :=
  (dropBytes began text.toList).head? = some '[' ∧ ∃ key keySpan value last,
    node = .mapping [⟨key, keySpan, value⟩] ⟨keySpan.start, last⟩ ∧ keySpan.start ≤ stop ∧
      value.Shallow text (began :: opened) stop

/-- A part of a collection that began at an offset. -/
def Node.ShallowPart (text : String) (opened : List Nat) (began stop : Nat) (node : Node) : Prop :=
  node.Shallow text (began :: opened) stop ∨ node.ShallowPair text opened began stop

namespace Node.Shallow

variable {text : String} {opened : List Nat} {began stop later : Nat} {node : Node}

/-- The node was also read up to any later offset. -/
theorem mono (shallow : node.Shallow text opened stop) (le : stop ≤ later) :
    node.Shallow text opened later := by
  intro around inner path
  obtain ⟨before, levels⟩ := shallow around inner path
  exact ⟨Nat.le_trans before le, levels⟩

/-- A collection that begins behind a node is not around it. -/
theorem opens (shallow : node.Shallow text opened stop) (le : stop ≤ began) :
    node.Shallow text (began :: opened) stop := by
  intro around inner path
  obtain ⟨before, levels⟩ := shallow around inner path
  -- Nothing in the node starts behind where the collection begins.
  rw [offsetsBefore_cons_of_le (Nat.le_trans before le)]
  exact ⟨before, levels⟩

/-- Outside of a collection there is one level less. -/
theorem closes (shallow : node.Shallow text (began :: opened) stop) :
    node.Shallow text opened stop := by
  intro around inner path
  obtain ⟨before, levels⟩ := shallow around inner path
  have fewer := @offsetsBefore_le_cons inner opened began
  exact ⟨before, by omega⟩

/-- A node without children is shallow. -/
theorem scalar {value : Scalar} {span : Span} (room : opened.length ≤ 512)
    (le : span.start ≤ stop) : (Node.scalar value span).Shallow text opened stop := by
  intro around inner path
  -- There is nothing below the node but itself.
  cases path with
  | here =>
    have few := @offsetsBefore_le_length (.scalar value span) opened
    rw [List.length_nil]
    exact ⟨le, by omega⟩
  | into known path => cases known

/-- A collection is shallow if all that is right below it is shallow inside of it, or a pair. -/
theorem collect (room : opened.length < 512) (here : node.span.start = began) (le : began ≤ stop)
    (below : ∀ child ∈ node.children, child.2.ShallowPart text opened began stop) :
    node.Shallow text opened stop := by
  subst here
  intro around inner path
  have few := @offsetsBefore_le_length inner opened
  -- Either the node is the collection itself, or the way to it goes through a child.
  cases path with
  | here =>
    rw [List.length_nil]
    exact ⟨le, by omega⟩
  | @into _ _ child around known path =>
    -- The level of the collection counts for a node that starts behind it. Where a node starts in
    -- front of it, it was copied into it.
    have weighed := @offsetsBefore_add_copiedInto_cons node inner around opened
    have pairs := @pairsAmong_le_cons node around text.toList
    rw [List.length_cons]
    rcases below child known with
      shallow | ⟨bracket, key, keySpan, value, last, same, before, shallow⟩
    · obtain ⟨before, levels⟩ := shallow around inner path
      exact ⟨before, by omega⟩
    · -- The pair itself does not count, and what is below it is in its value.
      rw [same] at path
      cases path with
      | here => exact ⟨before, by rw [List.length_nil]; omega⟩
      | @into _ _ below around known path =>
        cases List.mem_singleton.mp known
        obtain ⟨before, levels⟩ := shallow around inner path
        have more := @copiedInto_le_cons (.mapping [⟨key, keySpan, value⟩] ⟨keySpan.start, last⟩)
          inner around
        have others := @pairsAmong_le_cons
          (.mapping [⟨key, keySpan, value⟩] ⟨keySpan.start, last⟩) around text.toList
        have pair : isPairIn text.toList node
            (.mapping [⟨key, keySpan, value⟩] ⟨keySpan.start, last⟩) = true := by
          simp [isPairIn, bracket]
        rw [pairsAmong, if_pos pair, List.length_cons]
        exact ⟨before, by omega⟩

end Node.Shallow

/-- A part of a collection was also read up to any later offset. -/
theorem Node.ShallowPart.mono {text : String} {opened : List Nat} {began stop later : Nat}
    {node : Node} (part : node.ShallowPart text opened began stop) (le : stop ≤ later) :
    node.ShallowPart text opened began later := by
  rcases part with shallow | ⟨bracket, key, keySpan, value, last, same, before, shallow⟩
  · exact .inl (shallow.mono le)
  · exact .inr ⟨bracket, key, keySpan, value, last, same, Nat.le_trans before le, shallow.mono le⟩

namespace Yaml

variable {text : String} {opened : List Nat} {began : Nat} {document : List Char} {s read : State}
  {node : State → Reading (Node × State)}

/-! ### Reading at a level -/

/-- A state at a position in a text, whose anchored nodes are shallow. -/
structure State.Shallow (text : String) (opened : List Nat) (s : State) : Prop where
  stands : s.cursor.StandsIn text.toList
  anchored : ∀ anchor ∈ s.anchors, anchor.2.Shallow text opened s.cursor.offset

namespace State.Shallow

/-- A state stays shallow at a position that is reached from it. -/
theorem moveTo {c : Cursor} (shallow : s.Shallow text opened) (reached : s.cursor.Reaches c) :
    (s.moveTo c).Shallow text opened :=
  ⟨reached.standsIn shallow.stands,
    fun anchor known => (shallow.anchored anchor known).mono reached.offset_le⟩

/-- A collection may begin where a state is. -/
theorem opens (shallow : s.Shallow text opened) :
    s.Shallow text (s.cursor.offset :: opened) :=
  ⟨shallow.stands, fun anchor known => (shallow.anchored anchor known).opens (Nat.le_refl _)⟩

/-- A collection may end where a state is. -/
theorem closes (shallow : s.Shallow text (began :: opened)) : s.Shallow text opened :=
  ⟨shallow.stands, fun anchor known => (shallow.anchored anchor known).closes⟩

end State.Shallow

/-- From a state on, something was read of which a condition holds up to where it ends. -/
structure Arrives {α : Type} (text : String) (opened : List Nat) (holds : Nat → α → Prop)
    (s : State) (answer : α × State) : Prop where
  reached : s.cursor.Reaches answer.2.cursor
  state : answer.2.Shallow text opened
  holds : holds answer.2.cursor.offset answer.1

/-- What is read from a later position is read from an earlier one as well. -/
theorem Arrives.earlier {α : Type} {holds : Nat → α → Prop} {c : Cursor} {answer : α × State}
    (arrives : Arrives text opened holds (s.moveTo c) answer) (reached : s.cursor.Reaches c) :
    Arrives text opened holds s answer :=
  ⟨reached.trans arrives.reached, arrives.state, arrives.holds⟩

/-- From every shallow state, a reader answers a shallow node. -/
def StaysShallow (text : String) (opened : List Nat) (node : State → Reading (Node × State)) :
    Prop :=
  ∀ s : State, s.Shallow text opened →
    Ensures (Arrives text opened (Node.Shallow text opened) s) (node s)

/-- A reader answers a shallow node from a later position. -/
theorem StaysShallow.onward {c : Cursor} (stays : StaysShallow text opened node)
    (shallow : s.Shallow text opened) (reached : s.cursor.Reaches c) :
    Ensures (Arrives text opened (Node.Shallow text opened) s)
      (node (s.moveTo c)) :=
  (stays _ (shallow.moveTo reached)).imp fun _ arrives => arrives.earlier reached

/-- A node without children that begins no later than it ends was read. -/
theorem arrives_scalar {c : Cursor} {value : Scalar} {span : Span} (room : opened.length ≤ 512)
    (shallow : s.Shallow text opened) (reached : s.cursor.Reaches c)
    (le : span.start ≤ c.offset) :
    Arrives text opened (Node.Shallow text opened) s
      (.scalar value span, s.moveTo c) :=
  ⟨reached, shallow.moveTo reached, .scalar room le⟩

/-- A scalar that was read spans from its state on. -/
theorem arrives_spanned {c : Cursor} {value : Scalar} {span : Span} (room : opened.length ≤ 512)
    (shallow : s.Shallow text opened) (spanned : s.cursor.Spanned span c) :
    Arrives text opened (Node.Shallow text opened) s
      (.scalar value span, s.moveTo c) := by
  apply arrives_scalar room shallow spanned.reached
  rw [spanned.span]
  exact spanned.reached.offset_le

/-- A copied node is as shallow as the one that was anchored. -/
theorem readAlias_shallow (inFlow : Bool) : StaysShallow text opened (readAlias inFlow) := by
  intro s shallow
  unfold readAlias
  dsimp only
  split
  · exact .fail _ _
  · rename_i known found
    split
    · exact .fail _ _
    · -- The alias is behind its anchor, so nothing that starts later is around the copy.
      have name := s.cursor.reaches_next.trans (s.cursor.next.reaches_advance
        (s.cursor.next.rest.takeWhile (isNameChar inFlow)).length)
      have anchored := shallow.anchored _ (lookupMember?_mem found)
      exact .ok ⟨name, ⟨(shallow.moveTo name).stands, (shallow.moveTo name).anchored⟩,
        anchored.mono name.offset_le⟩

/-- A tag leaves a node as shallow as it is. -/
theorem applyTag_shallow {tag : Tag} {offset stop : Nat} {child : Node}
    (shallow : child.Shallow text opened stop) :
    Ensures (fun tagged => tagged.Shallow text opened stop)
      (applyTag document tag offset child) := by
  unfold applyTag
  split
  · -- A tag changes nothing but the value of a scalar.
    rename_i value span
    obtain ⟨before, levels⟩ := shallow _ _ .here
    split
    · exact .ok shallow
    · dsimp only
      split
      · -- Another value in the same place has as many collections around it.
        refine .ok fun around inner path => ?_
        cases path with
        | here => exact ⟨before, levels⟩
        | into known path => cases known
      · exact .error _
  · split
    · exact .ok shallow
    · exact .error _

/-- A node is finished as shallow as it was read, and is recorded so. -/
theorem finishNode_shallow {p : Properties} {child : Node}
    (arrives : Arrives text opened (Node.Shallow text opened) s (child, read)) :
    Ensures (Arrives text opened (Node.Shallow text opened) s)
      (finishNode document p child read) := by
  -- Whatever the tag makes of the node, the anchor is recorded for it.
  have recorded : ∀ tagged : Node, tagged.Shallow text opened read.cursor.offset →
      Ensures (Arrives text opened (Node.Shallow text opened) s)
        (finishNode document { p with tag := none } tagged read) := by
    intro tagged shallow
    unfold finishNode
    dsimp only
    split
    · rename_i name named
      have anchored : ∀ anchor ∈ (name, tagged) :: read.anchors,
          anchor.2.Shallow text opened read.cursor.offset :=
        List.forall_mem_cons.mpr ⟨shallow, arrives.state.anchored⟩
      exact .ok ⟨arrives.reached, ⟨arrives.state.stands, anchored⟩, shallow⟩
    · exact .ok ⟨arrives.reached, arrives.state, shallow⟩
  unfold finishNode
  dsimp only
  split
  · exact (applyTag_shallow arrives.holds).bind recorded
  · exact recorded child arrives.holds

/-- Properties are passed. -/
theorem readProperties_reaches {inFlow : Bool} {c : Cursor} (stands : c.StandsIn text.toList) :
    Ensures (fun (_, after) => c.Reaches after) (readProperties inFlow 3 .none c) :=
  (readProperties_fitIn inFlow 3 Properties.fitIn_none stands).ensures.imp fun _ fit => fit.2

/-! ### Flow collections -/

/-- A value that may be left out is shallow. -/
theorem readFlowValue_shallow (room : opened.length ≤ 512)
    (stays : StaysShallow text opened node) : StaysShallow text opened (readFlowValue node) := by
  intro s shallow
  -- A value that is left out is an empty scalar where it would stand.
  have empty : Arrives text opened (Node.Shallow text opened) s (.empty s.cursor.offset, s) :=
    arrives_scalar room shallow (.refl s.cursor) (Nat.le_refl s.cursor.offset)
  unfold readFlowValue
  split
  · exact .ok empty
  · split
    · exact .ok empty
    · exact stays s shallow

/-- A value behind a colon is shallow. -/
theorem readFlowValue_colon_shallow (room : opened.length ≤ 512)
    (stays : StaysShallow text opened node) (shallow : s.Shallow text opened) :
    Ensures (Arrives text opened (Node.Shallow text opened) s)
      (readFlowValue node s.next.skipLayout) :=
  (readFlowValue_shallow room stays).onward shallow
    (s.cursor.reaches_next.trans (Cursor.reaches_skipLayout _))

/-- The value of a pair in brackets is as shallow as the items around it. -/
theorem readPair_shallow {key : Node} (room : opened.length < 512)
    (bracket : (dropBytes began text.toList).head? = some '[')
    (stays : StaysShallow text (began :: opened) node)
    (arrives : Arrives text (began :: opened) (Node.Shallow text (began :: opened)) s
      (key, read)) :
    Ensures (Arrives text (began :: opened) (Node.ShallowPart text opened began) s)
      (readPair document node key read) := by
  have inside : (began :: opened).length ≤ 512 := Nat.succ_le_of_lt room
  unfold readPair
  split
  · rename_i value keySpan
    refine (readFlowValue_colon_shallow inside stays arrives.state).bind ?_
    rintro ⟨child, after⟩ behind
    have reached := arrives.reached.trans behind.reached
    -- The pair begins with its key, no later than the key was read.
    have before := (arrives.holds _ _ .here).1
    refine .ok ⟨reached, behind.state, .inr ⟨bracket, _, keySpan, child, _, rfl, ?_, behind.holds⟩⟩
    exact Nat.le_trans before behind.reached.offset_le
  · exact .fail _ _

/-- Behind a part of a flow collection more parts satisfy a condition, if they do. -/
theorem readFlowRest_shallow {α : Type} {holds : Nat → α → Prop} {close : Char}
    {more : State → Reading (List α × State)} {part : α}
    (mono : ∀ {part stop later}, holds stop part → stop ≤ later → holds later part)
    (others : ∀ t : State, t.Shallow text opened →
      Ensures (Arrives text opened (fun stop parts => ∀ part ∈ parts, holds stop part) t) (more t))
    (arrives : Arrives text opened holds s (part, read)) :
    Ensures (Arrives text opened (fun stop parts => ∀ part ∈ parts, holds stop part) s)
      (readFlowRest close more part read) := by
  have layout := read.cursor.reaches_skipLayout
  have mark : read.cursor.Reaches read.skipLayout.next.cursor :=
    layout.trans (Cursor.reaches_next _)
  unfold readFlowRest
  dsimp only
  split
  · -- More parts follow a comma.
    refine (others _ (arrives.state.moveTo mark)).bind ?_
    rintro ⟨rest, after⟩ more
    have onward := mark.trans more.reached
    refine .ok ⟨arrives.reached.trans onward, more.state, ?_⟩
    exact List.forall_mem_cons.mpr ⟨mono arrives.holds onward.offset_le, more.holds⟩
  · split
    · refine .ok ⟨arrives.reached.trans mark, arrives.state.moveTo mark, ?_⟩
      exact List.forall_mem_singleton.mpr (mono arrives.holds mark.offset_le)
    · exact .fail _ _

/-- The items of a flow sequence are shallow inside of it, or pairs. -/
theorem readFlowItems_shallow (room : opened.length < 512)
    (bracket : (dropBytes began text.toList).head? = some '[')
    (stays : StaysShallow text (began :: opened) node) (bound : Nat)
    (shallow : s.Shallow text (began :: opened)) :
    Ensures (Arrives text (began :: opened)
        (fun stop items => ∀ item ∈ items, item.ShallowPart text opened began stop) s)
      (readFlowItems document node began bound s) := by
  -- By induction on the items, each of which leaves a shallow state for the next one.
  induction bound generalizing s with
  | zero => exact .error _
  | succ bound ih =>
    have layout := s.cursor.reaches_skipLayout
    unfold readFlowItems
    dsimp only
    split
    · exact .error _
    · -- The bracket closes an empty rest.
      have mark := layout.trans (Cursor.reaches_next _)
      exact .ok ⟨mark, shallow.moveTo mark, List.forall_mem_nil _⟩
    · refine (stays.onward shallow layout).bind ?_
      rintro ⟨item, behind⟩ arrives
      have blanks := behind.cursor.reaches_skipLayout
      have spaced : Arrives text (began :: opened) (Node.Shallow text (began :: opened)) s
          (item, behind.skipLayout) :=
        ⟨arrives.reached.trans blanks, arrives.state.moveTo blanks,
          arrives.holds.mono blanks.offset_le⟩
      dsimp only
      split
      · -- A colon behind the item makes a pair of it.
        refine (readPair_shallow room bracket stays spaced).bind ?_
        rintro ⟨pair, last⟩ paired
        exact readFlowRest_shallow Node.ShallowPart.mono (fun t => ih) paired
      · have part : Arrives text (began :: opened) (Node.ShallowPart text opened began) s
            (item, behind.skipLayout) :=
          ⟨spaced.reached, spaced.state, .inl spaced.holds⟩
        exact readFlowRest_shallow Node.ShallowPart.mono (fun t => ih) part

/-- The values of a flow mapping are shallow inside of it. -/
theorem readFlowEntries_shallow (room : opened.length ≤ 512)
    (stays : StaysShallow text opened node) (bound : Nat) (seen : List String)
    (shallow : s.Shallow text opened) :
    Ensures (Arrives text opened
        (fun stop entries => ∀ entry ∈ entries, entry.value.Shallow text opened stop) s)
      (readFlowEntries document node began bound seen s) := by
  -- By induction on the entries, each of which leaves a shallow state for the next one.
  induction bound generalizing seen s with
  | zero => exact .error _
  | succ bound ih =>
    have layout := s.cursor.reaches_skipLayout
    have spaced : s.skipLayout.Shallow text opened := shallow.moveTo layout
    unfold readFlowEntries
    dsimp only
    split
    · exact .error _
    · -- The brace closes an empty rest.
      have mark := layout.trans (Cursor.reaches_next _)
      exact .ok ⟨mark, shallow.moveTo mark, List.forall_mem_nil _⟩
    · exact .fail _ _
    · exact .fail _ _
    · exact .fail _ _
    · exact .fail _ _
    · exact .fail _ _
    · refine (readFlowScalar_spans _ spaced.stands).ensures.bind ?_
      rintro ⟨⟨value, keySpan⟩, after⟩ spanned
      have keyed := layout.trans spanned.reached
      have blanks := after.reaches_skipLayout
      have behind : ((s.skipLayout.moveTo after).skipLayout).Shallow text opened :=
        spaced.moveTo (spanned.reached.trans blanks)
      refine .skip ?_
      intro _
      -- Whatever the value is, more entries may follow it.
      have goesOn : ∀ answer : Node × State,
          Arrives text opened (Node.Shallow text opened) (s.skipLayout.moveTo after).skipLayout
            answer →
          Ensures (Arrives text opened
              (fun stop entries => ∀ entry ∈ entries, entry.value.Shallow text opened stop) s)
            (readFlowRest '\x7d' (readFlowEntries document node began bound
              (scalarKey document value keySpan :: seen))
              ⟨scalarKey document value keySpan, keySpan, answer.1⟩ answer.2) := by
        intro answer arrives
        have entry : Arrives text opened (fun stop entry => entry.value.Shallow text opened stop) s
            ((⟨scalarKey document value keySpan, keySpan, answer.1⟩ : Entry Node), answer.2) :=
          ⟨(keyed.trans blanks).trans arrives.reached, arrives.state, arrives.holds⟩
        exact readFlowRest_shallow Node.Shallow.mono (fun t => ih _) entry
      dsimp only
      split
      · exact (readFlowValue_colon_shallow room stays behind).bind goesOn
      · -- A key without a colon has an empty value where the key ends.
        have stop : keySpan.stop = after.offset := congrArg Span.stop spanned.span
        apply goesOn
        apply arrives_scalar room behind (.refl _)
        show keySpan.stop ≤ _
        rw [stop]
        exact blanks.offset_le

/-- A collection that begins where its state is is shallow if its parts are. -/
theorem arrives_collect {α : Type} (parts : α) {child : Node} (room : opened.length < 512)
    (here : child.span.start = s.cursor.offset)
    (arrives : Arrives text (s.cursor.offset :: opened) (fun stop _ => ∀ part ∈ child.children,
      part.2.ShallowPart text opened s.cursor.offset stop) s (parts, read)) :
    Arrives text opened (Node.Shallow text opened) s (child, read) :=
  ⟨arrives.reached, arrives.state.closes,
    .collect room here arrives.reached.offset_le arrives.holds⟩

/-- The mark that a collection begins with stands at its offset. -/
theorem head_dropBytes {text : List Char} {c : Cursor} (stands : c.StandsIn text) :
    (dropBytes c.offset text).head? = c.peek := by
  obtain ⟨front, whole, offset⟩ := stands
  rw [whole, offset, dropBytes_append]
  rfl

/-- The content of a flow node is shallow if the nodes inside are. -/
theorem readFlowContent_shallow (room : opened.length < 512)
    (inner : ∀ began, StaysShallow text (began :: opened) node) (p : Properties) :
    StaysShallow text opened (readFlowContent document node p) := by
  intro s shallow
  have one := s.cursor.reaches_next
  have inside : s.next.Shallow text (s.cursor.offset :: opened) := shallow.opens.moveTo one
  unfold readFlowContent
  dsimp only
  split
  · -- A sequence opens with a bracket, as a pair inside of it asks for.
    rename_i bracket
    rw [← head_dropBytes shallow.stands] at bracket
    refine (readFlowItems_shallow room bracket (inner _) _ inside).bind ?_
    rintro ⟨items, after⟩ arrives
    refine .ok (arrives_collect items room rfl ?_)
    refine ⟨one.trans arrives.reached, arrives.state, ?_⟩
    intro part known
    exact arrives.holds _ (Node.mem_indexed known)
  · have levels : (s.cursor.offset :: opened).length ≤ 512 := Nat.succ_le_of_lt room
    refine (readFlowEntries_shallow levels (inner _) _ [] inside).bind ?_
    rintro ⟨entries, after⟩ arrives
    refine .ok (arrives_collect entries room rfl ?_)
    refine ⟨one.trans arrives.reached, arrives.state, ?_⟩
    intro part known
    obtain ⟨entry, member, rfl⟩ := List.mem_map.mp known
    exact .inl (arrives.holds entry member)
  · split
    · exact .ok (arrives_scalar (Nat.le_of_lt room) shallow (.refl _) (Nat.le_refl _))
    · refine (readFlowScalar_spans _ shallow.stands).ensures.bind ?_
      rintro ⟨⟨value, span⟩, after⟩ spanned
      exact .ok (arrives_spanned (Nat.le_of_lt room) shallow spanned)

/-- Every flow node is shallow, if there is no more room than levels are left. -/
theorem readFlowNode_shallow (document : List Char) (room : Nat)
    (levels : opened.length + room ≤ 512) :
    StaysShallow text opened (readFlowNode document room) := by
  -- Each level of nesting takes one from the room and opens one collection.
  induction room generalizing opened with
  | zero =>
    intro s shallow
    exact .fail _ _
  | succ room ih =>
    intro s shallow
    have below : ∀ began, (began :: opened).length + room ≤ 512 := by
      intro began
      rw [List.length_cons]
      omega
    unfold readFlowNode
    refine (readProperties_reaches shallow.stands).bind ?_
    rintro ⟨p, c⟩ passed
    dsimp only
    split
    · -- An alias has no properties of its own.
      split
      · exact (readAlias_shallow true).onward shallow passed
      · exact .fail _ _
    · refine ((readFlowContent_shallow (by omega) (fun began => ih (below began)) p).onward
        shallow passed).bind ?_
      rintro ⟨content, behind⟩ arrives
      exact finishNode_shallow arrives

/-! ### Block collections -/

/-- The values of a block mapping are shallow inside of it. -/
theorem readBlockEntries_shallow (stays : StaysShallow text opened node) (column bound : Nat)
    (seen : List String) (shallow : s.Shallow text opened) :
    Ensures (Arrives text opened
        (fun stop entries => ∀ entry ∈ entries.1, entry.value.Shallow text opened stop) s)
      (readBlockEntries document node column bound seen s) := by
  induction bound generalizing seen s with
  | zero => exact .ok ⟨.refl _, shallow, List.forall_mem_nil _⟩
  | succ bound ih =>
    unfold readBlockEntries
    refine (readKey_spans _ shallow.stands).ensures.bind ?_
    rintro ⟨⟨key, keySpan⟩, c⟩ ⟨d, spanned, colon⟩
    refine .skip ?_
    intro _
    refine (stays.onward shallow (spanned.reached.trans colon)).bind ?_
    rintro ⟨child, behind⟩ arrives
    have blanks := behind.cursor.reaches_skipLayout
    have spaced : behind.skipLayout.Shallow text opened := arrives.state.moveTo blanks
    have value := arrives.holds.mono blanks.offset_le
    -- Whatever follows, the entry itself is shallow up to there.
    have last : Arrives text opened
        (fun stop entries => ∀ entry ∈ entries.1, entry.value.Shallow text opened stop) s
        (([(⟨key, keySpan, child⟩ : Entry Node)], reach c.offset child), behind.skipLayout) :=
      ⟨arrives.reached.trans blanks, spaced, List.forall_mem_singleton.mpr value⟩
    dsimp only
    split
    · exact .ok last
    · split
      · exact .fail _ _
      · split
        · exact .fail _ _
        · -- More entries follow at the column.
          refine (ih _ spaced).bind ?_
          rintro ⟨⟨rest, restStop⟩, final⟩ others
          refine .ok ⟨last.reached.trans others.reached, others.state, ?_⟩
          exact List.forall_mem_cons.mpr ⟨value.mono others.reached.offset_le, others.holds⟩

/-- The items of a block sequence are shallow inside of it. -/
theorem readBlockItems_shallow (stays : StaysShallow text opened node) (column bound : Nat)
    (shallow : s.Shallow text opened) :
    Ensures (Arrives text opened
        (fun stop items => ∀ item ∈ items.1, item.Shallow text opened stop) s)
      (readBlockItems node column bound s) := by
  induction bound generalizing s with
  | zero => exact .ok ⟨.refl _, shallow, List.forall_mem_nil _⟩
  | succ bound ih =>
    unfold readBlockItems
    refine (stays.onward shallow s.cursor.reaches_next).bind ?_
    rintro ⟨child, behind⟩ arrives
    have blanks := behind.cursor.reaches_skipLayout
    have spaced : behind.skipLayout.Shallow text opened := arrives.state.moveTo blanks
    have item := arrives.holds.mono blanks.offset_le
    -- Whatever follows, the item itself is shallow up to there.
    have last : Arrives text opened
        (fun stop items => ∀ item ∈ items.1, item.Shallow text opened stop) s
        (([child], reach s.cursor.next.offset child), behind.skipLayout) :=
      ⟨arrives.reached.trans blanks, spaced, List.forall_mem_singleton.mpr item⟩
    dsimp only
    split
    · exact .ok last
    · split
      · exact .fail _ _
      · split
        · exact .ok last
        · -- More items follow at the column.
          refine (ih spaced).bind ?_
          rintro ⟨⟨rest, restStop⟩, final⟩ others
          refine .ok ⟨last.reached.trans others.reached, others.state, ?_⟩
          exact List.forall_mem_cons.mpr ⟨item.mono others.reached.offset_le, others.holds⟩

section

variable {children : Children}

/-- A block sequence is shallow if its items are. -/
theorem readBlockSequence_shallow (room : opened.length < 512)
    (blocks : ∀ began margin place,
      StaysShallow text (began :: opened) (children.block margin place)) :
    StaysShallow text opened (readBlockSequence document children) := by
  -- The items are one level deeper than the sequence, and it is made of nothing else.
  intro s shallow
  unfold readBlockSequence
  refine (readBlockItems_shallow (blocks _ _ _) _ _ shallow.opens).bind ?_
  rintro ⟨⟨items, stop⟩, after⟩ arrives
  refine .ok (arrives_collect items room rfl ⟨arrives.reached, arrives.state, ?_⟩)
  intro part known
  exact .inl (arrives.holds _ (Node.mem_indexed known))

/-- A block mapping is shallow if its values are. -/
theorem readBlockMapping_shallow (room : opened.length < 512)
    (blocks : ∀ began margin place,
      StaysShallow text (began :: opened) (children.block margin place)) :
    StaysShallow text opened (readBlockMapping document children) := by
  -- The values are one level deeper than the mapping, and it is made of nothing else.
  intro s shallow
  unfold readBlockMapping
  refine (readBlockEntries_shallow (blocks _ _ _) _ _ [] shallow.opens).bind ?_
  rintro ⟨⟨entries, stop⟩, after⟩ arrives
  refine .ok (arrives_collect entries room rfl ⟨arrives.reached, arrives.state, ?_⟩)
  intro part known
  obtain ⟨entry, member, rfl⟩ := List.mem_map.mp known
  exact .inl (arrives.holds entry member)

/-- A mapping or a scalar without a mark of its own is shallow. -/
theorem readMappingOrScalar_shallow (room : opened.length < 512)
    (blocks : ∀ began margin place,
      StaysShallow text (began :: opened) (children.block margin place))
    (margin : Nat) (sameLine : Bool) (p : Properties) :
    StaysShallow text opened (readMappingOrScalar document children margin sameLine p) := by
  intro s shallow
  unfold readMappingOrScalar
  refine .skip ?_
  -- A key makes a mapping of what is read; otherwise it is a quoted or a plain scalar.
  intro isKey
  split
  · split
    · exact .fail _ _
    · split
      · exact .fail _ _
      · exact readBlockMapping_shallow room blocks s shallow
  · split
    · refine (readQuoted_spans _ shallow.stands).ensures.bind ?_
      rintro ⟨⟨string, span⟩, after⟩ spanned
      refine .skip ?_
      intro _
      exact .ok (arrives_spanned (Nat.le_of_lt room) shallow spanned)
    · refine (readPlain_spans _ margin shallow.stands).ensures.bind ?_
      rintro ⟨_, after⟩ ⟨value, span, rfl, spanned⟩
      exact .ok (arrives_spanned (Nat.le_of_lt room) shallow spanned)

/-- What stands behind a node on its line leaves the node as shallow as it is. -/
theorem line_end_shallow {reading : Reading (Node × State)}
    (shallow : Ensures (Arrives text opened (Node.Shallow text opened) s) reading) :
    Ensures (Arrives text opened (Node.Shallow text opened) s)
      (do
        let (child, t) ← reading
        expectLineEnd t.cursor
        .ok (child, t)) := by
  -- Looking at the end of the line makes no node.
  refine shallow.bind ?_
  rintro ⟨child, after⟩ arrives
  refine .skip ?_
  intro _
  exact .ok arrives

/-- A block scalar is shallow. -/
theorem readBlockScalar_shallow (room : opened.length ≤ 512) (bound margin : Nat) :
    StaysShallow text opened (fun s => do
      let (node, after) ← readBlockScalar bound margin s.cursor
      .ok (node, s.moveTo after)) := by
  -- A scalar has nothing below it.
  intro s shallow
  refine (readBlockScalar_spans bound margin shallow.stands).ensures.bind ?_
  rintro ⟨_, after⟩ ⟨value, span, rfl, spanned⟩
  exact .ok (arrives_spanned room shallow spanned)

/-- The content of a block node is shallow if the nodes inside are, also where it is empty. -/
theorem readBlockContent_shallow (room : opened.length < 512)
    (blocks : ∀ began margin place,
      StaysShallow text (began :: opened) (children.block margin place))
    (flows : StaysShallow text opened children.flow) (margin : Nat) (place : Place)
    (crossed : Bool) (p : Properties) {c : Cursor} (shallow : s.Shallow text opened)
    (reached : s.cursor.Reaches c) :
    Ensures (Arrives text opened (Node.Shallow text opened) s)
      (readBlockContent document children margin place crossed p s.cursor.offset (s.moveTo c)) := by
  have few := Nat.le_of_lt room
  -- Where nothing stands, the node is empty and begins where its place does.
  have empty : Arrives text opened (Node.Shallow text opened) s
      (.empty s.cursor.offset, s.moveTo c) :=
    arrives_scalar few shallow reached reached.offset_le
  have sequences : Ensures (Arrives text opened (Node.Shallow text opened) s)
      (readBlockSequence document children (s.moveTo c)) :=
    (readBlockSequence_shallow room blocks).onward shallow reached
  unfold readBlockContent
  dsimp only
  split
  · exact .ok empty
  · split
    · split
      · exact sequences
      · exact .ok empty
    · split
      · split
        · exact .fail _ _
        · exact sequences
      · split
        · exact .fail _ _
        · -- The cases follow the character that the node begins with.
          split
          · split
            · exact .fail _ _
            · exact line_end_shallow ((readAlias_shallow false).onward shallow reached)
          · exact .fail _ _
          · exact .fail _ _
          · exact line_end_shallow (flows.onward shallow reached)
          · exact line_end_shallow (flows.onward shallow reached)
          · exact (readBlockScalar_shallow few _ _).onward shallow reached
          · exact (readBlockScalar_shallow few _ _).onward shallow reached
          · exact (readMappingOrScalar_shallow room blocks _ _ _).onward shallow reached

end

/-- Every block node is shallow, if there is no more room than levels are left. -/
theorem readBlockNode_shallow (document : List Char) (room margin : Nat) (place : Place)
    (levels : opened.length + room ≤ 512) :
    StaysShallow text opened (readBlockNode document room margin place) := by
  -- Each level of nesting takes one from the room and opens one collection.
  induction room generalizing margin place opened with
  | zero =>
    intro s shallow
    exact .fail _ _
  | succ room ih =>
    intro s shallow
    have layout := s.cursor.reaches_skipLayout
    have flows := @readFlowNode_shallow text opened document room (by omega)
    let children : Children := ⟨readBlockNode document room, readFlowNode document room⟩
    have blocks : ∀ began margin place,
        StaysShallow text (began :: opened) (children.block margin place) := by
      intro began margin place
      apply ih
      rw [List.length_cons]
      omega
    unfold readBlockNode
    dsimp only
    refine (readProperties_reaches (layout.standsIn shallow.stands)).bind ?_
    rintro ⟨p, c⟩ passed
    refine (readBlockContent_shallow (by omega) blocks flows margin place _ p shallow
      (layout.trans passed)).bind ?_
    rintro ⟨content, behind⟩ arrives
    exact finishNode_shallow arrives

/-- The root of a text is shallow. -/
theorem read_shallow {root : Node} (answered : Yaml.read text.toList = .ok root) :
    ∃ stop, root.Shallow text [] stop := by
  rw [read_eq_readTree] at answered
  obtain ⟨⟨node, after⟩, tree, answered⟩ := bind_eq_ok.mp answered
  obtain ⟨_, _, answered⟩ := bind_eq_ok.mp answered
  cases answered
  have begun := (reaches_rootStart text.toList).standsIn (Cursor.standsIn_start _)
  -- At the start there are neither anchors nor collections.
  have shallow : State.Shallow text [] ⟨rootStart text.toList, [], 0⟩ :=
    ⟨begun, List.forall_mem_nil _⟩
  have arrives := readBlockNode_shallow text.toList maxDepth 0 .document (Nat.le_refl _) _ shallow
    _ tree
  exact ⟨_, arrives.holds⟩

end Yaml

/-! ### Either format -/

/-- No node of a JSON document lies in more than 512 collections. In YAML those that the node was
copied into, from where it was anchored, and those that are pairs in brackets come on top. -/
theorem nesting_is_limited {format : Format} {text : String} {root node : Node}
    {around : List Node} (read : readDocument format text = .ok root)
    (path : root.Path around node) :
    (format = .json → around.length ≤ 512) ∧
      around.length ≤ 512 + Node.copiedInto node around + Node.pairsAmong text.toList around := by
  cases format with
  -- In JSON the reader limits the depth of the tree itself.
  | json =>
    obtain ⟨_, _, fits⟩ := JsonText.read_iff.mp read
    have limited : around.length ≤ 512 := Nat.le_trans path.length_le fits
    exact ⟨fun _ => limited, by omega⟩
  | yaml =>
    obtain ⟨stop, shallow⟩ := Yaml.read_shallow read
    obtain ⟨_, levels⟩ := shallow around node path
    rw [Node.offsetsBefore, List.countP_nil] at levels
    exact ⟨nofun, levels⟩

/-- A node in a pair in brackets lies in three collections, of which the pair does not count. -/
theorem value_of_pair_is_within_limit :
    ∃ root around node, readDocument .yaml "[a: [b]]" = .ok root ∧ root.Path around node ∧
      around.length = 3 ∧ Node.copiedInto node around = 0 ∧
      Node.pairsAmong "[a: [b]]".toList around = 1 ∧ 3 ≤ 512 + 0 + 1 := by
  -- The tree is written down and read by evaluation, with the path to the node in it.
  let node : Node := .scalar (.string "b") ⟨5, 6⟩
  let list : Node := .sequence [node] ⟨4, 7⟩
  let pair : Node := .mapping [⟨"a", ⟨1, 2⟩, list⟩] ⟨1, 7⟩
  let root : Node := .sequence [pair] ⟨0, 8⟩
  have read : readDocument .yaml "[a: [b]]" = .ok root := rfl
  have inList : list.Path [list] node := .into (List.mem_singleton_self ("0", node)) .here
  have inPair : pair.Path [pair, list] node := .into (List.mem_singleton_self ("a", list)) inList
  have path : root.Path [root, pair, list] node :=
    .into (List.mem_singleton_self ("0", pair)) inPair
  obtain ⟨_, limited⟩ := nesting_is_limited read path
  exact ⟨root, _, node, read, path, rfl, rfl, by decide, limited⟩

/-- A text is read as a tree of more than some depth. -/
def readsDeeper (levels : Nat) (text : List Char) : Bool :=
  match Yaml.read text with
  | .ok root => decide (levels < root.toJson.depth)
  | .error _ => false

/-- A text that is read as a deep tree has a node in as many collections. -/
theorem exists_path_of_readsDeeper {levels : Nat} {text : List Char}
    (deep : readsDeeper levels text = true) :
    ∃ root around node, readDocument .yaml (String.ofList text) = .ok root ∧
      root.Path around node ∧ around.length = levels := by
  unfold readsDeeper at deep
  cases read : Yaml.read text with
  | error e =>
    rw [read] at deep
    cases deep
  | ok root =>
    rw [read] at deep
    -- A tree that is deeper has a way down that is as long.
    obtain ⟨around, node, path, length⟩ := Node.exists_path_of_lt_depth (of_decide_eq_true deep)
    refine ⟨root, around, node, ?_, path, length⟩
    rw [readDocument, String.toList_ofList]
    exact read

/-- Pairs in brackets, each in the one before. -/
def nestedPairs (levels : Nat) : List Char :=
  (List.replicate levels ['[', 'a', ':']).flatten ++ ['[', ']'] ++ List.replicate levels ']'

/-- As pairs in brackets do not count, a node lies in 513 collections. -/
theorem nested_pairs_exceed_limit :
    ∃ root around node, readDocument .yaml (String.ofList (nestedPairs 257)) = .ok root ∧
      root.Path around node ∧ around.length = 513 :=
  exists_path_of_readsDeeper (by decide +kernel)

end SpecTrace
