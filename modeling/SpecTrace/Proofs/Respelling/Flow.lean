import SpecTrace.Proofs.Members
import SpecTrace.Proofs.Respelling.Scalars

/-! Properties, aliases and flow collections are read alike from two spellings of a text. -/

namespace SpecTrace.Yaml

open Respelling

variable {way : Respelling} {aligned : Prop} {n bound otherBound began otherBegan : Nat}
  {c d : Cursor} {s t : State}

/-! ### Properties -/

/-- Tags that are the same, at offsets that are alike; there are only any where the same
characters are left. -/
inductive SameTag (way : Respelling) : Option (Tag × Nat) → Option (Tag × Nat) → Prop
  | none : SameTag way none none
  | some (tag : Tag) {here there : Nat} (exactly : way.verbatim) (shifts : way.Shifts here there) :
      SameTag way (some (tag, here)) (some (tag, there))

/-- There is a tag on both sides or on neither. -/
theorem SameTag.isSome {tag other : Option (Tag × Nat)} (same : SameTag way tag other) :
    other.isSome = tag.isSome := by
  cases same <;> rfl

/-- Properties with the same anchor and the same tag. -/
structure SameProperties (way : Respelling) (p q : Properties) : Prop where
  anchor : q.anchor = p.anchor
  crossed : q.crossed = p.crossed
  tag : SameTag way p.tag q.tag

/-- No properties are the same as none. -/
theorem SameProperties.none : SameProperties way .none .none :=
  ⟨rfl, rfl, .none⟩

/-- There are properties on both sides or on neither. -/
theorem SameProperties.isEmpty {p q : Properties} (same : SameProperties way p q) :
    q.isEmpty = p.isEmpty := by
  unfold Properties.isEmpty
  rw [same.anchor, ← Option.not_isSome, same.tag.isSome, Option.not_isSome]

/-- A character of a name is no break. -/
theorem isNameChar_break (inFlow : Bool) (ch : Char) (breaks : isBreak ch = true) :
    isNameChar inFlow ch = false := by
  simp [isNameChar, breaks]

/-- The token of a property is the same and is passed alike. -/
theorem propertyToken_agree (alike : way.Alike aligned n c d) (inFlow : Bool) :
    way.Agree (fun x y => x = y ∧ way.Alike aligned n (c.advance x.length) (d.advance x.length))
      (propertyToken inFlow c) (propertyToken inFlow d) := by
  unfold propertyToken
  rw [alike.startsWith (unbroken_of_all rfl)]
  refine .ite Iff.rfl (fun tagged => ?_) fun _ => ?_
  · -- A tag between angle brackets may hold line breaks, which are the same on both sides.
    have there : c.peek = some '!' := by
      obtain ⟨rest, split⟩ := List.isPrefixOf_iff_prefix.mp tagged
      rw [Cursor.peek, ← split]
      rfl
    have exactly := alike.verbatim_of_tag there
    rw [alike.verbatim exactly]
    exact .ite Iff.rfl (fun _ => .ok ⟨rfl, alike.advance_verbatim exactly _⟩) fun _ =>
      .fail alike _
  · rw [alike.takeWhile_eq (isNameChar_break inFlow)]
    -- Any other token is a run of characters of the line.
    refine .ok ⟨rfl, ?_⟩
    have moved := alike.pass (alike.skipWhile (isNameChar_break inFlow))
    unfold Cursor.skipWhile at moved
    rwa [alike.takeWhile_eq (isNameChar_break inFlow)] at moved

/-- A token of an anchor begins with its mark. -/
theorem propertyToken_anchor {inFlow : Bool} {token : List Char} (there : c.peek = some '&')
    (read : propertyToken inFlow c = .ok token) : token.head? = some '&' := by
  have rest := Cursor.rest_of_peek there
  -- The token of an anchor is no tag between angle brackets.
  have other : c.startsWith ['!', '<'] = false := by
    rw [Cursor.startsWith, rest]
    rfl
  unfold propertyToken at read
  rw [other, rest] at read
  cases read
  cases inFlow <;> rfl

/-- A token adds the same property. -/
theorem add_agree {p q : Properties} {here there : Nat} {token : List Char}
    (same : SameProperties way p q) (shifts : way.verbatim → way.Shifts here there)
    (known : way.verbatim ∨ token.head? = some '&') :
    way.Agree (fun x y => SameProperties way x y ∧ x.crossed = p.crossed) (p.add token here)
      (q.add token there) := by
  unfold Properties.add
  split
  · rw [same.anchor]
    refine .ite Iff.rfl (fun _ => .fault shifts _) fun _ => ?_
    exact .ite Iff.rfl (fun _ => .fault shifts _) fun _ =>
      .ok ⟨⟨rfl, same.crossed, same.tag⟩, rfl⟩
  · -- Any other token is a tag, which stands only where the same characters are left.
    rename_i other
    have exactly : way.verbatim := by
      refine known.resolve_right fun anchor => ?_
      obtain ⟨name, split⟩ := List.head?_eq_some_iff.mp anchor
      exact other name split
    rw [same.tag.isSome]
    exact .ite Iff.rfl (fun _ => .fault shifts _) fun _ =>
      .ok ⟨⟨same.anchor, same.crossed, .some _ exactly (shifts exactly)⟩, rfl⟩

/-- Properties are read alike, and where they cross a line break positions are aligned. -/
theorem readProperties_agree (inFlow : Bool) (bound : Nat) {p q : Properties}
    (same : SameProperties way p q) (alike : way.Alike (aligned ∨ p.crossed = true) n c d) :
    way.Agree (fun x y => SameProperties way x.1 y.1 ∧
        way.Alike (aligned ∨ x.1.crossed = true) n x.2 y.2)
      (readProperties inFlow bound p c) (readProperties inFlow bound q d) := by
  -- By induction on the properties that are looked for.
  induction bound generalizing p q c d with
  | zero => exact .ok ⟨same, alike⟩
  | succ bound ih =>
    unfold readProperties
    refine .ite (or_congr (alike.peek_iff rfl) (alike.peek_iff rfl)) (fun mark => ?_) fun _ =>
      .ok ⟨same, alike⟩
    refine (propertyToken_agree alike inFlow).answers.bind ?_
    rintro token _ ⟨⟨rfl, behind⟩, answered, _⟩
    have known : way.verbatim ∨ token.head? = some '&' := by
      rcases mark with tag | anchor
      · exact .inl (alike.verbatim_of_tag tag)
      · exact .inr (propertyToken_anchor anchor answered)
    refine (add_agree same alike.meets.shifts known).bind ?_
    rintro x y ⟨added, crossed⟩
    obtain ⟨layout, after⟩ := behind.skipLayout
    -- The next property is read behind the layout, with one room less.
    refine ih ⟨added.anchor, ?_, added.tag⟩ (after.narrow ?_)
    · show (y.crossed || (d.advance token.length).skipLayout.2) =
        (x.crossed || (c.advance token.length).skipLayout.2)
      rw [added.crossed, layout]
    · -- Either the properties before this one or the layout behind it crossed a line break.
      intro either
      refine or_assoc.mpr (either.imp_right fun both => ?_)
      rw [Bool.or_eq_true, crossed] at both
      exact both

/-! ### States -/

/-- States at positions that are alike, with the same nodes under the same anchors. -/
structure SameState (way : Respelling) (aligned : Prop) (n : Nat) (s t : State) : Prop where
  cursor : way.Alike aligned n s.cursor t.cursor
  anchors : ∀ name, way.SameFound (lookupMember? s.anchors name) (lookupMember? t.anchors name)
  copied : t.copied = s.copied

/-- At other positions that are alike, states stay the same. -/
theorem SameState.moveTo {other : Prop} {m : Nat} (same : SameState way aligned n s t)
    (alike : way.Alike other m c d) : SameState way other m (s.moveTo c) (t.moveTo d) :=
  ⟨alike, same.anchors, same.copied⟩

/-- Failures at states that are the same agree. -/
theorem SameState.fail {α : Type} {P : α → α → Prop} (same : SameState way aligned n s t)
    (fault : SyntaxFault) : way.Agree P (s.fail fault) (t.fail fault) :=
  .fail same.cursor fault

/-- More characters may be allowed for, as far as the texts have as many. -/
theorem SameState.mono {m : Nat} (same : SameState way aligned n s t) (le : n ≤ m)
    (room : m ≤ way.text.length ∧ m ≤ way.respelt.length) : SameState way aligned m s t :=
  ⟨same.cursor.mono le room, same.anchors, same.copied⟩

/-- Behind other states, states are the same with the character that was passed allowed for again. -/
theorem SameState.within {other : Prop} {c d : Cursor} (same : SameState way aligned n s t)
    (outer : way.Alike other (n + 1) c d) : SameState way aligned (n + 1) s t :=
  same.mono (Nat.le_succ n) outer.room

/-- Two readers that answer the same nodes in states that are the same. -/
def NodesAlike (way : Respelling) (aligned : Prop)
    (read other : State → Reading (Node × State)) : Prop :=
  ∀ n s t, SameState way aligned n s t →
    way.Agree (Both way.Same (SameState way aligned n)) (read s) (other t)

/-- An alias is read alike. -/
theorem readAlias_agree (same : SameState way aligned n s t) (star : s.cursor.peek = some '*')
    (inFlow : Bool) :
    way.Agree (Both way.Same (SameState way aligned n)) (readAlias inFlow s)
      (readAlias inFlow t) := by
  -- A name stands on one line, so it is the same text on both sides.
  have opened := same.cursor.pass (same.cursor.step_abreast rfl star)
  have name := opened.takeWhile_eq (isNameChar_break inFlow)
  have after := opened.pass (opened.skipWhile (isNameChar_break inFlow))
  unfold Cursor.skipWhile at after
  unfold readAlias
  dsimp only
  rw [name] at after ⊢
  -- The same name leads to the same node, with as many nodes in it.
  have found := same.anchors (String.ofList
    (s.cursor.next.rest.takeWhile (isNameChar inFlow)))
  generalize lookupMember? s.anchors _ = node at found
  generalize lookupMember? t.anchors _ = other at found
  cases found with
  | none => exact same.fail _
  | some copies =>
    dsimp only
    rw [same.copied, copies.count_eq]
    exact .ite Iff.rfl (fun _ => same.fail _) fun _ => .ok ⟨copies, after, same.anchors, rfl⟩

/-- A tag makes the same of a node. -/
theorem applyTag_agree {node other : Node} {here there : Nat} (same : way.Same node other)
    (tag : Tag) (exactly : way.verbatim) (shifts : way.Shifts here there) :
    way.Agree way.Same (applyTag way.text tag here node)
      (applyTag way.respelt tag there other) := by
  -- A tag that asks for a scalar refuses collections on both sides.
  have collection : way.Agree way.Same
      (if tag = .nonSpecific ∨ tag = .other then .ok node
        else .error ⟨here, .collectionWithTag tag⟩)
      (if tag = .nonSpecific ∨ tag = .other then .ok other
        else .error ⟨there, .collectionWithTag tag⟩) :=
    .ite Iff.rfl (fun _ => .ok same) fun _ => .fault (fun _ => shifts) _
  cases same with
  | sequence => exact collection
  | mapping => exact collection
  | scalar spans text =>
    unfold applyTag
    refine .ite Iff.rfl (fun _ => .ok (.scalar spans text)) fun _ => ?_
    dsimp only
    rw [text]
    generalize scalarText way.text _ _ = written
    cases tagged? tag written with
    | none => exact .fault (fun _ => shifts) _
    | some resolved =>
      refine .ok (.scalar spans ?_)
      -- The value may be another one, but it stands at the same characters.
      cases resolved with
      | string => rfl
      | _ => exact spans.textAt exactly

/-- Nodes that are the same are recorded under the same anchor, if there is one. -/
theorem recordAnchor_agree {x y : Node} (finished : way.Same x y) (anchor : Option String)
    (same : SameState way aligned n s t) :
    way.Agree (Both way.Same (SameState way aligned n))
      (match anchor with
        | some name => .ok (x, { s with anchors := (name, x) :: s.anchors })
        | none => .ok (x, s))
      (match anchor with
        | some name => .ok (y, { t with anchors := (name, y) :: t.anchors })
        | none => .ok (y, t)) := by
  cases anchor with
  | none => exact .ok ⟨finished, same⟩
  | some name =>
    refine .ok ⟨finished, same.cursor, fun key => ?_, same.copied⟩
    -- The new anchor hides an older one of its name on both sides.
    rw [lookupMember?_cons, lookupMember?_cons]
    split
    · exact .some finished
    · exact same.anchors key

/-- A node is finished alike. -/
theorem finishNode_agree {node other : Node} {p q : Properties}
    (properties : SameProperties way p q) (nodes : way.Same node other)
    (same : SameState way aligned n s t) :
    way.Agree (Both way.Same (SameState way aligned n)) (finishNode way.text p node s)
      (finishNode way.respelt q other t) := by
  -- A tag is applied before the anchor is recorded.
  have tags := properties.tag
  unfold finishNode
  rw [properties.anchor]
  generalize p.tag = tag at tags
  generalize q.tag = otherTag at tags
  cases tags with
  | none => exact recordAnchor_agree nodes _ same
  | some tag exactly shifts =>
    exact (applyTag_agree nodes tag exactly shifts).bind fun _ _ finished =>
      recordAnchor_agree finished _ same

/-! ### Flow collections -/

/-- The end of the text and the marks behind a value in a flow collection. -/
def endsValue (next : Option Char) : Bool :=
  next.all fun c => c = ',' || c = ']' || c = '\x7d'

/-- What ends a value comes next on both sides or on neither. -/
theorem endsValue_peek (alike : way.Alike aligned n c d) :
    endsValue d.peek = endsValue c.peek := by
  have breaks : ∀ ch, isBreak ch = true → endsValue (some ch) = false := by
    intro ch breaks
    rcases break_cases breaks with rfl | rfl <;> rfl
  exact alike.peek_test endsValue fun ch other here there => by
    rw [breaks ch here, breaks other there]

/-- An empty node at positions that are alike is the same. -/
theorem empty_same {here there : Nat} (meets : way.Meets here there) :
    way.Same (.empty here) (.empty there) := by
  refine .scalar (meets.span meets) ?_
  -- An empty span holds no text, wherever it stands.
  have nothing : ∀ document offset, textAt document ⟨offset, offset⟩ = [] := by
    intro document offset
    unfold textAt
    rw [Nat.sub_self]
    cases dropBytes offset document with
    | nil => rfl
    | cons ch rest =>
      have size := ch.utf8Size_pos
      rw [takeBytes, if_neg (by omega)]
  exact (nothing _ _).trans (nothing _ _).symm

/-- Layout is skipped alike. -/
theorem SameState.skipLayout (same : SameState way aligned n s t) :
    SameState way aligned n s.skipLayout t.skipLayout :=
  same.moveTo (same.cursor.skipLayout.2.narrow .inl)

/-- Behind a character of the line one less is left. -/
theorem SameState.next {ch : Char} (same : SameState way aligned (n + 1) s t)
    (inside : isBreak ch = false) (there : s.cursor.peek = some ch) :
    SameState way aligned n s.next t.next :=
  same.moveTo (same.cursor.next inside there)

variable {node other : State → Reading (Node × State)}

/-- A value is read unless it is left out. -/
theorem readFlowValue_eq (node : State → Reading (Node × State)) (s : State) :
    readFlowValue node s =
      if endsValue s.cursor.peek then .ok (.empty s.cursor.offset, s) else node s := by
  unfold readFlowValue endsValue
  cases s.cursor.peek with
  | none => rfl
  | some ch => simp [or_assoc]

/-- A value is read alike, whether or not it is left out. -/
theorem readFlowValue_agree (follows : NodesAlike way aligned node other) :
    NodesAlike way aligned (readFlowValue node) (readFlowValue other) := by
  intro n s t same
  rw [readFlowValue_eq, readFlowValue_eq, endsValue_peek same.cursor]
  exact .ite Iff.rfl (fun _ => .ok ⟨empty_same same.cursor.meets, same⟩) fun _ =>
    follows _ _ _ same

/-- The larger of two offsets that are alike. -/
theorem shifts_max {first second otherFirst otherSecond : Nat}
    (shifts : way.Shifts first otherFirst) (others : way.Shifts second otherSecond) :
    way.Shifts (max first second) (max otherFirst otherSecond) := by
  unfold Shifts at shifts others ⊢
  omega

/-- A pair is read alike. -/
theorem readPair_agree (follows : NodesAlike way aligned node other) {key otherKey : Node}
    (keys : way.Same key otherKey) (same : SameState way aligned n s t)
    (colon : s.cursor.peek = some ':') :
    way.Agree (Both way.Same (SameState way aligned n)) (readPair way.text node key s)
      (readPair way.respelt other otherKey t) := by
  unfold readPair
  cases keys with
  | sequence => exact same.fail _
  | mapping => exact same.fail _
  | scalar spans text =>
    have behind := same.moveTo
      (same.cursor.pass (same.cursor.step_abreast rfl colon))
    refine (readFlowValue_agree follows _ _ _ behind.skipLayout).bind ?_
    rintro ⟨child, _⟩ ⟨otherChild, _⟩ ⟨children, after⟩
    have key : scalarKey way.respelt _ _ = scalarKey way.text _ _ := congrArg String.ofList text
    dsimp only
    rw [key]
    -- The mapping begins with its key and ends with its value, or with its key if nothing follows.
    refine .ok ⟨.mapping ⟨spans.start, fun exactly => ?_⟩ (.cons spans children .nil), after⟩
    exact shifts_max (children.span.stop exactly) (spans.stop exactly)

/-- What stands behind a part of a flow collection is read alike; more parts are read with one
character less left. -/
theorem readFlowRest_agree {α : Type} {close : Char} (inside : isBreak close = false)
    {P : α → α → Prop} {Q : List α → List α → Prop} {part otherPart : α}
    {more otherMore : State → Reading (List α × State)} (parts : P part otherPart)
    (single : ∀ x y, P x y → Q [x] [y])
    (cons : ∀ x y xs ys, P x y → Q xs ys → Q (x :: xs) (y :: ys))
    (same : SameState way aligned n s t)
    (goesOn : ∀ m s t, m + 1 = n → SameState way aligned m s t →
      way.Agree (Both Q (SameState way aligned m)) (more s) (otherMore t)) :
    way.Agree (Both Q (SameState way aligned n)) (readFlowRest close more part s)
      (readFlowRest close otherMore otherPart t) := by
  have spaced := same.skipLayout
  unfold readFlowRest
  refine .ite (spaced.cursor.peek_iff rfl) (fun comma => ?_) fun _ => ?_
  · -- The comma is one of the characters that are left.
    obtain ⟨m, rfl⟩ := spaced.cursor.room_pos comma
    refine (goesOn m _ _ rfl (spaced.next rfl comma)).bind ?_
    rintro ⟨rest, _⟩ ⟨others, _⟩ ⟨tail, after⟩
    exact .ok ⟨cons _ _ _ _ parts tail, after.within same.cursor⟩
  · refine .ite (spaced.cursor.peek_iff inside) (fun closed => ?_) fun _ => spaced.fail _
    obtain ⟨m, rfl⟩ := spaced.cursor.room_pos closed
    exact .ok ⟨single _ _ parts, (spaced.next inside closed).within same.cursor⟩

/-- A flow sequence ends, closes or goes on with an item. -/
theorem readFlowItems_succ (document : List Char) (node : State → Reading (Node × State))
    (began bound : Nat) (s : State) :
    readFlowItems document node began (bound + 1) s =
      if s.skipLayout.cursor.peek = none then .error ⟨began, .unterminatedFlowSequence⟩
      else if s.skipLayout.cursor.peek = some ']' then .ok ([], s.skipLayout.next)
      else (do
        let (item, s) ← node s.skipLayout
        let s := s.skipLayout
        let (item, s) ←
          if s.cursor.peek = some ':' then readPair document node item s else .ok (item, s)
        readFlowRest ']' (readFlowItems document node began bound) item s) := by
  -- The reader matches on the next character; here its cases are told apart by equations.
  rw [readFlowItems]
  dsimp only
  split <;> simp_all

/-- The end of the text is reached on both sides or on neither. -/
theorem peek_none_iff (alike : way.Alike aligned n c d) : d.peek = none ↔ c.peek = none := by
  rcases alike.peek_cases with same | ⟨_, _, _, _, left, right⟩
  · rw [same]
  · simp [left, right]

/-- Where no characters are left the text has ended. -/
theorem rest_of_zero (alike : way.Alike aligned 0 c d) : c.rest = [] ∧ d.rest = [] := by
  cases alike.facing with
  | stop left right => exact ⟨left, right⟩

/-- At the end of the text a flow sequence has not ended. -/
theorem readFlowItems_end {document : List Char} {node : State → Reading (Node × State)}
    (ended : s.cursor.rest = []) (bound : Nat) :
    readFlowItems document node began bound s = .error ⟨began, .unterminatedFlowSequence⟩ := by
  -- No layout is left to skip, and no bracket comes.
  cases bound with
  | zero => rfl
  | succ bound =>
    have stays : s.skipLayout.cursor = s.cursor :=
      congrArg Prod.fst (Cursor.layoutFrom_end ended false)
    rw [readFlowItems_succ, stays, if_pos (by simp [Cursor.peek, ended])]

/-- The items of a flow sequence are read alike. -/
theorem readFlowItems_agree (follows : NodesAlike way aligned node other)
    (begins : way.Meets began otherBegan) (same : SameState way aligned n s t)
    (room : n ≤ bound) (otherRoom : n ≤ otherBound) :
    way.Agree (Both way.SameItems (SameState way aligned n))
      (readFlowItems way.text node began bound s)
      (readFlowItems way.respelt other otherBegan otherBound t) := by
  -- By induction on the characters that are left, not on the bounds, which differ between the
  -- texts.
  induction n generalizing bound otherBound s t with
  | zero =>
    obtain ⟨left, right⟩ := rest_of_zero same.cursor
    rw [readFlowItems_end left, readFlowItems_end right]
    exact .fault begins.shifts _
  | succ n ih =>
    obtain ⟨bound, rfl⟩ : ∃ more, bound = more + 1 := ⟨bound - 1, by omega⟩
    obtain ⟨otherBound, rfl⟩ : ∃ more, otherBound = more + 1 := ⟨otherBound - 1, by omega⟩
    have spaced := same.skipLayout
    -- Behind an item, a comma takes one of the characters that are left.
    have rest : ∀ {item otherItem : Node} {s t : State}, way.Same item otherItem →
        SameState way aligned (n + 1) s t →
        way.Agree (Both way.SameItems (SameState way aligned (n + 1)))
          (readFlowRest ']' (readFlowItems way.text node began bound) item s)
          (readFlowRest ']' (readFlowItems way.respelt other otherBegan otherBound) otherItem
            t) := by
      intro item otherItem s t items same
      refine readFlowRest_agree rfl items (fun _ _ first => .cons first .nil)
        (fun _ _ _ _ => .cons) same fun m s t less same => ?_
      cases less
      exact ih same (by omega) (by omega)
    rw [readFlowItems_succ, readFlowItems_succ]
    refine .ite (peek_none_iff spaced.cursor) (fun _ => .fault begins.shifts _) fun _ => ?_
    refine .ite (spaced.cursor.peek_iff rfl) (fun closed => ?_) fun _ => ?_
    · exact .ok ⟨.nil, (spaced.next rfl closed).within same.cursor⟩
    · refine (follows _ _ _ spaced).bind ?_
      rintro ⟨item, s⟩ ⟨otherItem, t⟩ ⟨items, behind⟩
      have after := behind.skipLayout
      refine .ite (after.cursor.peek_iff rfl) (fun colon => ?_) fun _ => rest items after
      refine (readPair_agree follows items after colon).bind ?_
      rintro ⟨pair, _⟩ ⟨otherPair, _⟩ ⟨pairs, last⟩
      exact rest pairs last

/-- A flow mapping ends, closes or goes on with a key, which stands without properties. -/
theorem readFlowEntries_succ (document : List Char) (node : State → Reading (Node × State))
    (began bound : Nat) (seen : List String) (s : State) :
    readFlowEntries document node began (bound + 1) seen s =
      if s.skipLayout.cursor.peek = none then .error ⟨began, .unterminatedFlowMapping⟩
      else if s.skipLayout.cursor.peek = some '\x7d' then .ok ([], s.skipLayout.next)
      else if s.skipLayout.cursor.peek = some '[' ∨ s.skipLayout.cursor.peek = some '\x7b' then
        s.skipLayout.fail .collectionAsKey
      else if s.skipLayout.cursor.peek = some '!' ∨ s.skipLayout.cursor.peek = some '&' ∨
          s.skipLayout.cursor.peek = some '*' then
        s.skipLayout.fail .propertiesOnFlowKey
      else (do
        let ((value, keySpan), after) ← readFlowScalar document.length s.skipLayout.cursor
        let key := scalarKey document value keySpan
        refuseRepeated seen key keySpan.start
        let s := (s.skipLayout.moveTo after).skipLayout
        let (child, s) ←
          if s.cursor.peek = some ':' then readFlowValue node s.next.skipLayout
          else .ok (.empty keySpan.stop, s)
        let more := readFlowEntries document node began bound (key :: seen)
        readFlowRest '\x7d' more ⟨key, keySpan, child⟩ s) := by
  -- The cases are told apart by equations, as for items.
  rw [readFlowEntries]
  dsimp only
  split <;> simp_all

/-- At the end of the text a flow mapping has not ended. -/
theorem readFlowEntries_end {document : List Char} {node : State → Reading (Node × State)}
    (ended : s.cursor.rest = []) (bound : Nat) (seen : List String) :
    readFlowEntries document node began bound seen s =
      .error ⟨began, .unterminatedFlowMapping⟩ := by
  -- No layout is left to skip, and no brace comes.
  cases bound with
  | zero => rfl
  | succ bound =>
    have stays : s.skipLayout.cursor = s.cursor :=
      congrArg Prod.fst (Cursor.layoutFrom_end ended false)
    rw [readFlowEntries_succ, stays, if_pos (by simp [Cursor.peek, ended])]

/-- Entries with the same key, whose values are the same. -/
structure SameEntry (way : Respelling) (entry other : Entry Node) : Prop where
  key : entry.key = other.key
  keys : way.SameSpan entry.keySpan other.keySpan
  value : way.Same entry.value other.value

/-- Entries that are the same are added to others that are. -/
theorem SameEntry.cons {entry otherEntry : Entry Node} {rest others : List (Entry Node)}
    (same : SameEntry way entry otherEntry) (more : way.SameEntries rest others) :
    way.SameEntries (entry :: rest) (otherEntry :: others) := by
  -- The keys are equal texts, and their spans and the values are what agrees.
  obtain ⟨key, keys, value⟩ := same
  rcases entry with ⟨_, _, _⟩
  rcases otherEntry with ⟨_, _, _⟩
  cases key
  exact .cons keys value more

/-- The entries of a flow mapping are read alike. -/
theorem readFlowEntries_agree (follows : NodesAlike way aligned node other)
    (begins : way.Meets began otherBegan) (seen : List String)
    (same : SameState way aligned n s t) (room : n ≤ bound) (otherRoom : n ≤ otherBound) :
    way.Agree (Both way.SameEntries (SameState way aligned n))
      (readFlowEntries way.text node began bound seen s)
      (readFlowEntries way.respelt other otherBegan otherBound seen t) := by
  -- By induction on the characters that are left, as for items.
  induction n generalizing bound otherBound seen s t with
  | zero =>
    obtain ⟨left, right⟩ := rest_of_zero same.cursor
    rw [readFlowEntries_end left, readFlowEntries_end right]
    exact .fault begins.shifts _
  | succ n ih =>
    obtain ⟨bound, rfl⟩ : ∃ more, bound = more + 1 := ⟨bound - 1, by omega⟩
    obtain ⟨otherBound, rfl⟩ : ∃ more, otherBound = more + 1 := ⟨otherBound - 1, by omega⟩
    have spaced := same.skipLayout
    have next := fun {ch : Char} (inside : isBreak ch = false) => spaced.cursor.peek_iff inside
    -- Behind an entry, a comma takes one of the characters that are left.
    have rest : ∀ {entry otherEntry : Entry Node} {seen : List String} {s t : State},
        SameEntry way entry otherEntry → SameState way aligned (n + 1) s t →
        way.Agree (Both way.SameEntries (SameState way aligned (n + 1)))
          (readFlowRest '\x7d' (readFlowEntries way.text node began bound seen) entry s)
          (readFlowRest '\x7d' (readFlowEntries way.respelt other otherBegan otherBound seen)
            otherEntry t) := by
      intro entry otherEntry seen s t entries same
      refine readFlowRest_agree rfl entries (fun _ _ first => first.cons .nil)
        (fun _ _ _ _ => SameEntry.cons) same fun m s t less same => ?_
      cases less
      exact ih seen same (by omega) (by omega)
    rw [readFlowEntries_succ, readFlowEntries_succ]
    refine .ite (peek_none_iff spaced.cursor) (fun _ => .fault begins.shifts _) fun _ => ?_
    refine .ite (next rfl) (fun closed => ?_) fun _ => ?_
    · exact .ok ⟨.nil, (spaced.next rfl closed).within same.cursor⟩
    refine .ite (or_congr (next rfl) (next rfl)) (fun _ => spaced.fail _) fun _ => ?_
    refine .ite (or_congr (next rfl) (or_congr (next rfl) (next rfl))) (fun _ => spaced.fail _)
      fun _ => ?_
    refine (readFlowScalar_agree spaced.cursor same.cursor.room.1 same.cursor.room.2).bind ?_
    rintro ⟨⟨value, keySpan⟩, c⟩ ⟨⟨_, otherSpan⟩, d⟩ ⟨⟨rfl, ⟨starts, stops⟩, text⟩, behind⟩
    -- The key has the same text on both sides, and was seen on both or on neither.
    have key : scalarKey way.respelt value otherSpan = scalarKey way.text value keySpan :=
      congrArg String.ofList text
    dsimp only
    rw [key]
    refine (refuseRepeated_agree starts.shifts seen _).bind fun _ _ _ => ?_
    have after := (spaced.moveTo behind).skipLayout
    refine .ite (after.cursor.peek_iff rfl) (fun colon => ?_) fun _ =>
      rest ⟨rfl, starts.span stops, empty_same stops⟩ after
    have opened := after.moveTo (after.cursor.pass (after.cursor.step_abreast rfl colon))
    refine (readFlowValue_agree follows _ _ _ opened.skipLayout).bind ?_
    rintro ⟨child, _⟩ ⟨otherChild, _⟩ ⟨children, last⟩
    exact rest ⟨rfl, starts.span stops, children⟩ last

/-- The content of a flow node is a collection, a scalar, or nothing behind its properties. -/
theorem readFlowContent_eq (document : List Char) (node : State → Reading (Node × State))
    (p : Properties) (s : State) :
    readFlowContent document node p s =
      if s.cursor.peek = some '[' then (do
        let (items, after) ← readFlowItems document node s.cursor.offset document.length s.next
        .ok (.sequence items ⟨s.cursor.offset, after.cursor.offset⟩, after))
      else if s.cursor.peek = some '\x7b' then (do
        let (entries, after) ←
          readFlowEntries document node s.cursor.offset document.length [] s.next
        .ok (.mapping entries ⟨s.cursor.offset, after.cursor.offset⟩, after))
      else if !p.isEmpty && endsValue s.cursor.peek then .ok (.empty s.cursor.offset, s)
      else (do
        let ((value, span), after) ← readFlowScalar document.length s.cursor
        .ok (.scalar value span, s.moveTo after)) := by
  unfold readFlowContent
  dsimp only
  split <;> simp_all [endsValue]

/-- The content of a flow node is read alike. -/
theorem readFlowContent_agree (follows : NodesAlike way aligned node other) {p q : Properties}
    (properties : SameProperties way p q) (same : SameState way aligned n s t) :
    way.Agree (Both way.Same (SameState way aligned n)) (readFlowContent way.text node p s)
      (readFlowContent way.respelt other q t) := by
  have begins := same.cursor.meets
  obtain ⟨room, otherRoom⟩ := same.cursor.room
  rw [readFlowContent_eq, readFlowContent_eq]
  refine .ite (same.cursor.peek_iff rfl) (fun bracket => ?_) fun _ => ?_
  · -- The bracket is one of the characters that are left.
    obtain ⟨m, rfl⟩ := same.cursor.room_pos bracket
    refine (readFlowItems_agree follows begins (same.next rfl bracket) (by omega)
      (by omega)).bind ?_
    rintro ⟨items, _⟩ ⟨others, _⟩ ⟨inside, after⟩
    exact .ok ⟨.sequence (begins.span after.cursor.meets) inside,
      after.within same.cursor⟩
  refine .ite (same.cursor.peek_iff rfl) (fun brace => ?_) fun _ => ?_
  · -- The brace is one of the characters that are left.
    obtain ⟨m, rfl⟩ := same.cursor.room_pos brace
    refine (readFlowEntries_agree follows begins [] (same.next rfl brace) (by omega)
      (by omega)).bind ?_
    rintro ⟨entries, _⟩ ⟨others, _⟩ ⟨inside, after⟩
    exact .ok ⟨.mapping (begins.span after.cursor.meets) inside,
      after.within same.cursor⟩
  rw [properties.isEmpty, endsValue_peek same.cursor]
  refine .ite Iff.rfl (fun _ => .ok ⟨empty_same begins, same⟩) fun _ => ?_
  refine (readFlowScalar_agree same.cursor room otherRoom).bind ?_
  rintro ⟨⟨value, span⟩, _⟩ ⟨⟨_, _⟩, _⟩ ⟨⟨rfl, ⟨starts, stops⟩, text⟩, after⟩
  exact .ok ⟨.scalar (starts.span stops) text, same.moveTo after⟩

/-- Flow nodes are read alike, whatever room there is for nesting. -/
theorem readFlowNode_agree (room : Nat) :
    NodesAlike way aligned (readFlowNode way.text room) (readFlowNode way.respelt room) := by
  -- By induction on the room; an alias needs none.
  induction room with
  | zero =>
    intro n s t same
    exact same.fail _
  | succ room ih =>
    intro n s t same
    refine (readProperties_agree true 3 .none same.cursor.uncrossed).bind ?_
    rintro ⟨p, c⟩ ⟨q, d⟩ ⟨properties, behind⟩
    have after := same.moveTo (behind.narrow .inl)
    dsimp only
    refine .ite (after.cursor.peek_iff rfl) (fun star => ?_) fun _ => ?_
    · rw [properties.isEmpty]
      exact .ite Iff.rfl (fun _ => readAlias_agree after star true) fun _ => after.fail _
    · refine (readFlowContent_agree ih properties after).bind ?_
      rintro ⟨content, _⟩ ⟨otherContent, _⟩ ⟨contents, last⟩
      exact finishNode_agree properties contents last

end SpecTrace.Yaml
