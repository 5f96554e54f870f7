import SpecTrace.Proofs.Respelling.Flow
import SpecTrace.Yaml.Block

/-! Block collections are read alike from two spellings of a text. -/

namespace SpecTrace.Yaml

open Respelling

variable {way : Respelling} {aligned : Prop} {n bound otherBound : Nat} {c d : Cursor}
  {s t : State}

/-- Both lines end or both go on. -/
theorem expectLineEnd_agree (alike : way.Alike aligned n c d) :
    way.Agree (fun _ _ => True) (expectLineEnd c) (expectLineEnd d) := by
  -- Blanks are skipped abreast, and what comes next decides on both sides.
  have blanks := alike.skipInlineSpace
  have spaced := alike.pass blanks
  unfold expectLineEnd
  dsimp only
  -- Nothing, a comment or the end of the line may follow the blanks.
  cases spaced.facing with
  | stop left right =>
    unfold Cursor.peek
    rw [left, right]
    exact .ok trivial
  | char inside left right _ =>
    rw [left, right]
    dsimp only
    rw [decide_eq_decide.mpr (moved_iff blanks)]
    exact .ite Iff.rfl (fun _ => .ok trivial) fun _ => .fail spaced _
  | line ends otherEnds left right _ =>
    obtain ⟨ch, there, breaks⟩ := ends.peek left
    obtain ⟨other, otherThere, otherBreaks⟩ := otherEnds.peek right
    rw [there, otherThere]
    dsimp only
    rw [breaks, otherBreaks]
    exact .ok trivial

/-- A key stands on both sides or on neither. -/
theorem atMappingKey_agree (alike : way.Alike aligned n c d) (room : n ≤ bound)
    (otherRoom : n ≤ otherBound) :
    way.Agree Eq (atMappingKey bound c) (atMappingKey otherBound d) := by
  unfold atMappingKey
  rw [alike.atQuote]
  refine .ite Iff.rfl (fun quoted => ?_) fun _ => ?_
  · -- A quoted scalar is a key if a colon follows, and a plain one if it stops at a colon.
    refine (readQuoted_agree alike quoted room otherRoom).bind ?_
    rintro ⟨_, c⟩ ⟨_, d⟩ ⟨_, after⟩
    exact .ok ((after.pass after.skipInlineSpace).atIndicator rfl).symm
  · obtain ⟨_, _, stops⟩ := scanPlainLine_alike alike
    exact .ok (congrArg (fun stop => decide (stop = LineStop.colon)) stops.symm)

/-- A key is quoted, or stands plain on a line. -/
theorem readKeyText_eq (bound : Nat) (c : Cursor) :
    readKeyText bound c =
      if c.atQuote = true then readQuoted bound c
      else if c.peek = some '[' ∨ c.peek = some '\x7b' then c.fail .collectionAsKey
      else if c.peek = some '?' then c.fail .complexKey
      else
        let (text, after, stop) := scanPlainLine c
        if stop ≠ .colon ∨ text = [] then c.fail .expectedKey
        else .ok ((String.ofList text, ⟨c.offset, after.offset⟩), after) := by
  -- The reader matches on the next character; here its cases are told apart by equations.
  unfold readKeyText Cursor.atQuote
  split <;> simp_all

/-- The text of a key is read alike. -/
theorem readKeyText_agree (alike : way.Alike aligned n c d) (room : n ≤ bound)
    (otherRoom : n ≤ otherBound) :
    way.Agree (Both (Both Eq (Meeting way)) (way.Alike aligned n)) (readKeyText bound c)
      (readKeyText otherBound d) := by
  rw [readKeyText_eq, readKeyText_eq, alike.atQuote]
  refine .ite Iff.rfl (fun quoted => readQuoted_agree alike quoted room otherRoom) fun _ => ?_
  refine .ite (or_congr (alike.peek_iff rfl) (alike.peek_iff rfl)) (fun _ => .fail alike _)
    fun _ => ?_
  refine .ite (alike.peek_iff rfl) (fun _ => .fail alike _) fun _ => ?_
  -- The texts of a plain key are the same, and so is what stops them.
  obtain ⟨same, abreast, stops⟩ := scanPlainLine_alike alike
  have after := alike.pass abreast
  rcases left : scanPlainLine c with ⟨text, cEnd, stop⟩
  rcases right : scanPlainLine d with ⟨otherText, dEnd, otherStop⟩
  rw [left, right] at same stops after
  cases same
  cases stops
  exact .ite Iff.rfl (fun _ => .fail alike _) fun _ => .ok ⟨⟨rfl, alike.meets, after.meets⟩, after⟩

/-- A key is read alike, and takes a character at least. -/
theorem readKey_agree (alike : way.Alike aligned (n + 1) c d) (room : n + 1 ≤ bound)
    (otherRoom : n + 1 ≤ otherBound) :
    way.Agree (Both (Both Eq (Meeting way)) (way.Alike aligned n)) (readKey bound c)
      (readKey otherBound d) := by
  -- Behind the key both sides skip blanks, and then a colon is there on both or on neither.
  refine (readKeyText_agree alike room otherRoom).bind ?_
  rintro ⟨key, c⟩ ⟨otherKey, d⟩ ⟨keys, after⟩
  have colon := after.pass after.skipInlineSpace
  dsimp only
  rw [colon.atIndicator (x := ':') rfl]
  refine .ite Iff.rfl (fun there => ?_) fun _ => .fail colon _
  simp only [Cursor.atIndicator, Bool.and_eq_true, decide_eq_true_eq] at there
  exact .ok ⟨keys, colon.next rfl there.1⟩

/-- A collection reaches as far on both sides. -/
theorem reach_shifts {stop otherStop : Nat} {child other : Node}
    (shifts : way.verbatim → way.Shifts stop otherStop) (same : way.Same child other)
    (exactly : way.verbatim) : way.Shifts (reach stop child) (reach otherStop other) :=
  shifts_max (shifts exactly) (same.span.stop exactly)

/-- Where something is left to be read, something comes next. -/
theorem peek_of_not_atEnd (more : c.atEnd = false) : ∃ ch, c.peek = some ch := by
  unfold Cursor.atEnd at more
  unfold Cursor.peek
  cases left : c.rest with
  | nil => simp [left] at more
  | cons ch rest => exact ⟨ch, rfl⟩

/-- The end of what was read is as far on both sides. -/
def Stops (way : Respelling) (stop otherStop : Nat) : Prop :=
  way.verbatim → way.Shifts stop otherStop

variable {node other : State → Reading (Node × State)}

/-- The entries of a block mapping are read alike. -/
theorem readBlockEntries_agree (follows : NodesAlike way True node other) (column : Nat)
    (seen : List String) (same : SameState way True (n + 1) s t) (room : n + 1 ≤ bound)
    (otherRoom : n + 1 ≤ otherBound) :
    way.Agree (Both (Both way.SameEntries (Stops way)) (SameState way True (n + 1)))
      (readBlockEntries way.text node column bound seen s)
      (readBlockEntries way.respelt other column otherBound seen t) := by
  -- By induction on the characters that are left, of which every key takes one at least.
  induction n using Nat.strongRecOn generalizing bound otherBound seen s t with
  | ind n ih =>
    obtain ⟨bound, rfl⟩ : ∃ more, bound = more + 1 := ⟨bound - 1, by omega⟩
    obtain ⟨otherBound, rfl⟩ : ∃ more, otherBound = more + 1 := ⟨otherBound - 1, by omega⟩
    unfold readBlockEntries
    refine (readKey_agree same.cursor same.cursor.room.1 same.cursor.room.2).bind ?_
    rintro ⟨⟨key, keySpan⟩, c⟩ ⟨⟨_, otherSpan⟩, d⟩ ⟨⟨rfl, starts, stops⟩, named⟩
    refine (refuseRepeated_agree starts.shifts seen key).bind fun _ _ _ => ?_
    -- The value is read at aligned positions, and so is whatever stands behind it.
    refine (follows _ _ _ (same.moveTo named)).bind ?_
    rintro ⟨child, s⟩ ⟨otherChild, t⟩ ⟨children, behind⟩
    have entry : SameEntry way ⟨key, keySpan, child⟩ ⟨key, otherSpan, otherChild⟩ :=
      ⟨rfl, starts.span stops, children⟩
    have reached : Stops way (reach c.offset child) (reach d.offset otherChild) :=
      reach_shifts named.meets.shifts children
    have after := behind.skipLayout
    dsimp only
    rw [after.cursor.atEnd, after.cursor.atDocumentMarker (.inl trivial), after.cursor.column_eq,
      after.cursor.atIndicator (x := '-') rfl]
    refine .ite Iff.rfl (fun _ => .ok ⟨⟨entry.cons .nil, reached⟩, after.within same.cursor⟩) fun goesOn => ?_
    refine .ite Iff.rfl (fun _ => after.fail _) fun _ => ?_
    refine .ite Iff.rfl (fun _ => after.fail _) fun _ => ?_
    -- More is left, so there is a character for the next key.
    simp only [Bool.or_eq_true, not_or, Bool.not_eq_true] at goesOn
    obtain ⟨ch, there⟩ := peek_of_not_atEnd goesOn.1.1
    obtain ⟨m, rfl⟩ := after.cursor.room_pos there
    refine (ih m (by omega) (key :: seen) after (by omega) (by omega)).bind ?_
    rintro ⟨⟨rest, stop⟩, _⟩ ⟨⟨others, otherStop⟩, _⟩ ⟨⟨more, ends⟩, last⟩
    exact .ok ⟨⟨entry.cons more, fun exactly => shifts_max (reached exactly) (ends exactly)⟩,
      last.within same.cursor⟩

/-- The items of a block sequence are read alike. -/
theorem readBlockItems_agree (follows : NodesAlike way True node other) (column : Nat)
    (same : SameState way True (n + 1) s t) (dash : s.cursor.peek = some '-')
    (room : n + 1 ≤ bound) (otherRoom : n + 1 ≤ otherBound) :
    way.Agree (Both (Both way.SameItems (Stops way)) (SameState way True (n + 1)))
      (readBlockItems node column bound s) (readBlockItems other column otherBound t) := by
  -- By induction on the characters that are left, of which every dash takes one.
  induction n using Nat.strongRecOn generalizing bound otherBound s t with
  | ind n ih =>
    obtain ⟨bound, rfl⟩ : ∃ more, bound = more + 1 := ⟨bound - 1, by omega⟩
    obtain ⟨otherBound, rfl⟩ : ∃ more, otherBound = more + 1 := ⟨otherBound - 1, by omega⟩
    have opened := same.cursor.next rfl dash
    unfold readBlockItems
    refine (follows _ _ _ (same.moveTo opened)).bind ?_
    rintro ⟨item, s⟩ ⟨otherItem, t⟩ ⟨items, behind⟩
    have reached : Stops way (reach _ item) (reach _ otherItem) :=
      reach_shifts opened.meets.shifts items
    have after := behind.skipLayout
    dsimp only
    rw [after.cursor.atEnd, after.cursor.atDocumentMarker (.inl trivial), after.cursor.column_eq,
      after.cursor.atIndicator (x := '-') rfl]
    refine .ite Iff.rfl (fun _ => .ok ⟨⟨.cons items .nil, reached⟩, after.within same.cursor⟩) fun _ => ?_
    refine .ite Iff.rfl (fun _ => after.fail _) fun _ => ?_
    refine .ite Iff.rfl (fun _ => .ok ⟨⟨.cons items .nil, reached⟩, after.within same.cursor⟩) fun goesOn => ?_
    -- The next item begins with a dash again.
    simp only [Bool.or_eq_true, not_or, Bool.not_eq_true', Bool.not_eq_false, Cursor.atIndicator,
      Bool.and_eq_true, decide_eq_true_eq] at goesOn
    obtain ⟨m, rfl⟩ := after.cursor.room_pos goesOn.2.1
    refine (ih m (by omega) after goesOn.2.1 (by omega) (by omega)).bind ?_
    rintro ⟨⟨rest, stop⟩, _⟩ ⟨⟨others, otherStop⟩, _⟩ ⟨⟨more, ends⟩, last⟩
    exact .ok ⟨⟨.cons items more, fun exactly => shifts_max (reached exactly) (ends exactly)⟩,
      last.within same.cursor⟩

/-- Readers of children that answer the same nodes. -/
structure ChildrenAlike (way : Respelling) (children others : Children) : Prop where
  block : ∀ margin place, NodesAlike way True (children.block margin place)
    (others.block margin place)
  flow : ∀ aligned, NodesAlike way aligned children.flow others.flow

variable {children others : Children}

/-- A block sequence is read alike. -/
theorem readBlockSequence_agree (follow : ChildrenAlike way children others)
    (same : SameState way True n s t) (dash : s.cursor.peek = some '-') :
    way.Agree (Both way.Same (SameState way True n)) (readBlockSequence way.text children s)
      (readBlockSequence way.respelt others t) := by
  -- The dash needs room, so there is one step less for the items. They stand at one column on both
  -- sides.
  obtain ⟨m, rfl⟩ := same.cursor.room_pos dash
  unfold readBlockSequence
  dsimp only
  rw [same.cursor.column_eq]
  refine (readBlockItems_agree (follow.block _ _) _ same dash same.cursor.room.1
    same.cursor.room.2).bind ?_
  rintro ⟨⟨items, stop⟩, _⟩ ⟨⟨otherItems, otherStop⟩, _⟩ ⟨⟨inside, stops⟩, after⟩
  exact .ok ⟨.sequence ⟨same.cursor.meets, stops⟩ inside, after⟩

/-- A block mapping is read alike. -/
theorem readBlockMapping_agree (follow : ChildrenAlike way children others)
    (same : SameState way True n s t) {ch : Char} (there : s.cursor.peek = some ch) :
    way.Agree (Both way.Same (SameState way True n)) (readBlockMapping way.text children s)
      (readBlockMapping way.respelt others t) := by
  -- The key needs room, so there is one step less for the entries. They stand at one column on both
  -- sides.
  obtain ⟨m, rfl⟩ := same.cursor.room_pos there
  unfold readBlockMapping
  dsimp only
  rw [same.cursor.column_eq]
  refine (readBlockEntries_agree (follow.block _ _) _ [] same same.cursor.room.1
    same.cursor.room.2).bind ?_
  rintro ⟨⟨entries, stop⟩, _⟩ ⟨⟨otherEntries, otherStop⟩, _⟩ ⟨⟨inside, stops⟩, after⟩
  exact .ok ⟨.mapping ⟨same.cursor.meets, stops⟩ inside, after⟩

/-- The next character decides that this is no mapping in block style, whatever follows. -/
def opensOther (c : Cursor) : Bool :=
  c.atIndicator '?' || c.peek.any ['*', '@', '\x60', '[', '\x7b', '|', '>'].contains

/-- A sequence or a mapping in block style begins here. -/
def opensCollection (bound : Nat) (c : Cursor) : Bool :=
  c.atIndicator '-' || !opensOther c && (atMappingKey bound c).toOption = some true

/-- What stands behind layout and properties is read without looking at columns: the node has no
margin to keep to, and is neither a sequence nor a mapping in block style. -/
structure Inline (way : Respelling) (margin : Nat) (c : Cursor) : Prop where
  margin : margin = 0
  unmarked : way.Unmarked
  kind : opensCollection way.text.length c = false

/-- No block sequence begins there. -/
theorem Inline.sequence {margin : Nat} (inline : Inline way margin c) :
    c.atIndicator '-' = false :=
  (Bool.or_eq_false_iff.mp inline.kind).1

/-- No block mapping begins there, if the next character leaves that open. -/
theorem Inline.mapping {margin : Nat} (inline : Inline way margin c)
    (other : opensOther c = false) : atMappingKey way.text.length c ≠ .ok true := by
  have kind := (Bool.or_eq_false_iff.mp inline.kind).2
  rw [other, Bool.not_false, Bool.true_and, decide_eq_false_iff_not] at kind
  exact fun key => kind (by rw [key]; rfl)

/-- A mapping or a scalar is read alike. -/
theorem readMappingOrScalar_agree (follow : ChildrenAlike way children others)
    (margin : Nat) (sameLine : Bool) {p q : Properties} (properties : SameProperties way p q)
    (same : SameState way aligned n s t) {ch : Char} (there : s.cursor.peek = some ch)
    (known : aligned ∨ atMappingKey way.text.length s.cursor ≠ .ok true) :
    way.Agree (Both way.Same (SameState way aligned n))
      (readMappingOrScalar way.text children margin sameLine p s)
      (readMappingOrScalar way.respelt others margin sameLine q t) := by
  obtain ⟨room, otherRoom⟩ := same.cursor.room
  unfold readMappingOrScalar
  refine (atMappingKey_agree same.cursor room otherRoom).answers.bind ?_
  rintro key _ ⟨rfl, answered, _⟩
  rw [properties.isEmpty, properties.crossed, same.cursor.atQuote]
  refine .ite Iff.rfl (fun mapping => ?_) fun _ => ?_
  · -- Only the columns of aligned positions tell the entries of a mapping.
    have align : aligned := known.resolve_right (not_not_intro (by rw [answered, mapping]))
    refine .ite Iff.rfl (fun _ => same.fail _) fun _ => ?_
    refine .ite Iff.rfl (fun _ => same.fail _) fun _ => ?_
    have aligned := same.moveTo (same.cursor.narrow fun _ : True => align)
    exact (readBlockMapping_agree follow aligned there).imp fun _ _ both =>
      ⟨both.1, both.2.moveTo both.2.cursor.loosen⟩
  refine .ite Iff.rfl (fun quoted => ?_) fun _ => ?_
  · refine (readQuoted_agree same.cursor quoted room otherRoom).bind ?_
    rintro ⟨⟨text, span⟩, _⟩ ⟨⟨_, otherSpan⟩, _⟩ ⟨⟨rfl, starts, stops⟩, after⟩
    refine (expectLineEnd_agree after).bind fun _ _ _ => ?_
    exact .ok ⟨.scalar (starts.span stops) rfl, same.moveTo after⟩
  · -- What is neither a key nor quoted is a plain scalar.
    refine (readPlain_agree same.cursor margin room otherRoom).bind ?_
    rintro ⟨node, _⟩ ⟨otherNode, _⟩ ⟨nodes, after⟩
    exact .ok ⟨nodes, same.moveTo after⟩

/-- The content of a block node is told by what comes next. -/
theorem readBlockContent_eq (document : List Char) (children : Children) (margin : Nat)
    (place : Place) (crossed : Bool) (p : Properties) (emptyAt : Nat) (s : State) :
    readBlockContent document children margin place crossed p emptyAt s =
      if (s.cursor.atEnd || s.cursor.atDocumentMarker) = true then .ok (.empty emptyAt, s)
      else if (crossed && s.cursor.column < margin) = true then
        if place = .value ∧ s.cursor.column + 1 = margin ∧ s.cursor.atIndicator '-' = true then
          readBlockSequence document children s
        else .ok (.empty emptyAt, s)
      else if s.cursor.atIndicator '-' = true then
        if (!crossed && place = .value) = true then s.fail .blockSequenceNotAllowed
        else readBlockSequence document children s
      else if s.cursor.atIndicator '?' = true then s.fail .complexKey
      else if s.cursor.peek = some '*' then
        if (!p.isEmpty) = true then s.fail .aliasWithProperties
        else (do
          let (node, s) ← readAlias false s
          expectLineEnd s.cursor
          .ok (node, s))
      else if s.cursor.peek = some '@' ∨ s.cursor.peek = some '\x60' then
        s.fail .reservedIndicator
      else if s.cursor.peek = some '[' ∨ s.cursor.peek = some '\x7b' then (do
        let (node, s) ← children.flow s
        expectLineEnd s.cursor
        .ok (node, s))
      else if s.cursor.peek = some '|' ∨ s.cursor.peek = some '>' then (do
        let (node, after) ← readBlockScalar document.length margin s.cursor
        .ok (node, s.moveTo after))
      else readMappingOrScalar document children margin (!crossed && place = .value) p s := by
  unfold readBlockContent
  dsimp only
  -- Up to the indicators the cases are the same; the characters behind them are looked at one by
  -- one.
  refine ite_congr rfl (fun _ => rfl) fun _ => ite_congr rfl (fun _ => rfl) fun _ =>
    ite_congr rfl (fun _ => rfl) fun _ => ite_congr rfl (fun _ => rfl) fun _ => ?_
  split <;> simp_all

/-- The content of a block node is read alike, at aligned positions or without looking at
columns. -/
theorem readBlockContent_agree (follow : ChildrenAlike way children others) (margin : Nat)
    (place : Place) (crossed : Bool) {p q : Properties} (properties : SameProperties way p q)
    {emptyAt otherEmptyAt : Nat} (empties : way.Meets emptyAt otherEmptyAt)
    (same : SameState way aligned n s t) (known : aligned ∨ Inline way margin s.cursor) :
    way.Agree (Both way.Same (SameState way aligned n))
      (readBlockContent way.text children margin place crossed p emptyAt s)
      (readBlockContent way.respelt others margin place crossed q otherEmptyAt t) := by
  obtain ⟨room, otherRoom⟩ := same.cursor.room
  have next := fun {x : Char} (inside : isBreak x = false) => same.cursor.peek_iff inside
  have indicator := fun {x : Char} (inside : isBreak x = false) =>
    same.cursor.atIndicator inside
  -- Columns are compared at aligned positions only; without a margin there is nothing to compare.
  have columns : (t.cursor.column < margin ↔ s.cursor.column < margin) ∧
      (t.cursor.column + 1 = margin ↔ s.cursor.column + 1 = margin) := by
    rcases known with align | inline
    · rw [(same.cursor.narrow fun _ : True => align).column_eq]
      exact ⟨Iff.rfl, Iff.rfl⟩
    · rw [inline.margin]
      omega
  -- Only aligned positions are at a block sequence.
  have sequence : s.cursor.atIndicator '-' = true →
      way.Agree (Both way.Same (SameState way aligned n)) (readBlockSequence way.text children s)
        (readBlockSequence way.respelt others t) := by
    intro dash
    have align : aligned := known.resolve_right fun inline => by
      rw [inline.sequence] at dash
      cases dash
    have aligned := same.moveTo (same.cursor.narrow fun _ : True => align)
    simp only [Cursor.atIndicator, Bool.and_eq_true, decide_eq_true_eq] at dash
    exact (readBlockSequence_agree follow aligned dash.1).imp fun _ _ both =>
      ⟨both.1, both.2.moveTo both.2.cursor.loosen⟩
  -- What comes next tells the case on both sides.
  rw [readBlockContent_eq, readBlockContent_eq, same.cursor.atEnd,
    same.cursor.atDocumentMarker (known.imp_right Inline.unmarked), indicator (x := '-') rfl,
    indicator (x := '?') rfl, properties.isEmpty, decide_eq_decide.mpr columns.1]
  refine .ite Iff.rfl (fun _ => .ok ⟨empty_same empties, same⟩) fun content => ?_
  refine .ite Iff.rfl (fun _ => ?_) fun _ => ?_
  · refine .ite (and_congr Iff.rfl (and_congr columns.2 Iff.rfl))
      (fun value => sequence value.2.2) fun _ => .ok ⟨empty_same empties, same⟩
  refine .ite Iff.rfl (fun dash => ?_) fun _ => ?_
  · exact .ite Iff.rfl (fun _ => same.fail _) fun _ => sequence dash
  refine .ite Iff.rfl (fun _ => same.fail _) fun noQuestion => ?_
  refine .ite (next rfl) (fun star => ?_) fun noStar => ?_
  · refine .ite Iff.rfl (fun _ => same.fail _) fun _ => ?_
    refine (readAlias_agree same star false).bind ?_
    rintro ⟨node, _⟩ ⟨otherNode, _⟩ ⟨nodes, after⟩
    exact (expectLineEnd_agree after.cursor).bind fun _ _ _ => .ok ⟨nodes, after⟩
  refine .ite (or_congr (next rfl) (next rfl)) (fun _ => same.fail _) fun noReserved => ?_
  refine .ite (or_congr (next rfl) (next rfl)) (fun _ => ?_) fun noFlow => ?_
  · refine (follow.flow _ _ _ _ same).bind ?_
    rintro ⟨node, _⟩ ⟨otherNode, _⟩ ⟨nodes, after⟩
    exact (expectLineEnd_agree after.cursor).bind fun _ _ _ => .ok ⟨nodes, after⟩
  refine .ite (or_congr (next rfl) (next rfl)) (fun block => ?_) fun noBlock => ?_
  · obtain ⟨ch, inside, there⟩ : ∃ ch, isBreak ch = false ∧ s.cursor.peek = some ch := by
      rcases block with there | there
      · exact ⟨_, rfl, there⟩
      · exact ⟨_, rfl, there⟩
    refine (readBlockScalar_agree same.cursor inside there margin room otherRoom).bind ?_
    rintro ⟨node, _⟩ ⟨otherNode, _⟩ ⟨nodes, after⟩
    exact .ok ⟨nodes, same.moveTo after⟩
  · simp only [Bool.or_eq_true, not_or, Bool.not_eq_true] at content
    obtain ⟨ch, there⟩ := peek_of_not_atEnd content.1
    -- No other content is left, so a column matters only to a mapping.
    have other : opensOther s.cursor = false := by
      rw [there] at noStar noReserved noFlow noBlock
      simp_all [opensOther]
    exact readMappingOrScalar_agree follow margin _ properties same there
      (known.imp_right fun inline => inline.mapping other)

/-! ### Nodes and documents -/

/-- A block node is read alike, if its children are and its columns are or need not be. -/
theorem readBlockNode_step {room : Nat}
    (inner : ∀ margin place, NodesAlike way True (readBlockNode way.text room margin place)
      (readBlockNode way.respelt room margin place))
    (margin : Nat) (place : Place) (same : SameState way aligned n s t)
    (known : aligned ∨ s.cursor.skipLayout.2 = true ∨
      ∀ p c, readProperties false 3 .none s.cursor.skipLayout.1 = .ok (p, c) →
        p.crossed = true ∨ Inline way margin c) :
    way.Agree (Both way.Same (SameState way aligned n))
      (readBlockNode way.text (room + 1) margin place s)
      (readBlockNode way.respelt (room + 1) margin place t) := by
  -- Layout and properties are read alike, and then the content, whose columns matter only at
  -- aligned positions.
  have follow : ChildrenAlike way ⟨readBlockNode way.text room, readFlowNode way.text room⟩
      ⟨readBlockNode way.respelt room, readFlowNode way.respelt room⟩ :=
    ⟨inner, fun _ => readFlowNode_agree room⟩
  obtain ⟨crossed, content⟩ := same.cursor.skipLayout
  unfold readBlockNode
  dsimp only
  refine (readProperties_agree false 3 .none content.uncrossed).answers.bind ?_
  rintro ⟨p, c⟩ ⟨q, d⟩ ⟨⟨properties, behind⟩, answered, _⟩
  have sameCrossed : (t.cursor.skipLayout.2 || q.crossed) =
      (s.cursor.skipLayout.2 || p.crossed) := by
    rw [crossed, properties.crossed]
  -- The columns are known behind a line break, in front of the properties or behind one of them.
  have columns : ((aligned ∨ s.cursor.skipLayout.2 = true) ∨ p.crossed = true) ∨
      Inline way margin c := by
    rcases known with align | line | inline
    · exact .inl (.inl (.inl align))
    · exact .inl (.inl (.inr line))
    · exact (inline p c answered).imp_left .inr
  dsimp only
  rw [sameCrossed]
  refine (readBlockContent_agree follow margin place _ properties same.cursor.meets
    (same.moveTo behind) columns).bind ?_
  rintro ⟨node, s⟩ ⟨otherNode, t⟩ ⟨nodes, after⟩
  exact finishNode_agree properties nodes
    (after.moveTo (after.cursor.narrow fun align => .inl (.inl align)))

/-- Block nodes at aligned positions are read alike, whatever room there is for nesting. -/
theorem readBlockNode_agree (room : Nat) : ∀ margin place,
    NodesAlike way True (readBlockNode way.text room margin place)
      (readBlockNode way.respelt room margin place) := by
  -- By induction on the room, as the children of a block node have one level less.
  induction room with
  | zero =>
    intro margin place n s t same
    exact same.fail _
  | succ room ih =>
    intro margin place n s t same
    exact readBlockNode_step ih margin place same (.inl trivial)

/-- The document ends on both sides or on neither. -/
theorem expectDocumentEnd_agree (alike : way.Alike aligned n c d)
    (known : aligned ∨ way.Unmarked) :
    way.Agree (fun _ _ => True) (expectDocumentEnd c) (expectDocumentEnd d) := by
  have spaced := alike.skipLayout.2.narrow fun align : aligned => .inl align
  -- One closing marker may stand there.
  have behind : way.Alike aligned n
      (if c.skipLayout.1.atMarker closingMarker = true then (c.skipLayout.1.advance 3).skipLayout.1
        else c.skipLayout.1)
      (if d.skipLayout.1.atMarker closingMarker = true then (d.skipLayout.1.advance 3).skipLayout.1
        else d.skipLayout.1) := by
    rw [spaced.atMarker known (.inr rfl)]
    split
    · rename_i marker
      simp only [Cursor.atMarker, Cursor.startsWithMarker, Bool.and_eq_true] at marker
      have after := spaced.pass (spaced.word (unbroken_of_all rfl) marker.2.1)
      exact after.skipLayout.2.narrow .inl
    · exact spaced
  unfold expectDocumentEnd
  dsimp only
  rw [behind.atMarker known (.inl rfl), behind.atEnd]
  refine .ite Iff.rfl (fun _ => .fail behind _) fun _ => ?_
  exact .ite Iff.rfl (fun _ => .fail behind _) fun _ => .ok trivial

/-- Reads a document from the position behind its opening marker. -/
def readRoot (document : List Char) (c : Cursor) : Reading Node := do
  let (root, s) ← readBlockNode document maxDepth 0 .document ⟨c, [], 0⟩
  expectDocumentEnd s.cursor
  .ok root

/-- Reads a document from the position behind its directives. -/
def readFrom (document : List Char) (c : Cursor) : Reading Node :=
  readRoot document (if c.atMarker openingMarker then c.advance 3 else c)

/-- A document is read from behind its mark and its directives. -/
theorem read_eq (text : List Char) :
    read text = readFrom text
      ((Cursor.start text).skipByteOrderMark.skipDirectives (text.length + 1)) := rfl

end SpecTrace.Yaml
