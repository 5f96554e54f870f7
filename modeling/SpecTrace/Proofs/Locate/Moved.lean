import SpecTrace.Proofs.Locate.Locating

/-! Pointers into moved content lead back to where it was written: nothing else is recorded at a
destination or below it, as far as no reference is on the way. -/

namespace SpecTrace

open Relation

namespace Bundle

variable {tree : FileTree} {path : List PathName} {session : Session} {bundle : Bundle}
  {root : Document} {read : Session} {copied : Json} {s : BundleState}
  {relocation other : Relocation} {entering next : Call} {q more : Pointer}

/-- Destinations that begin one another are one destination, of one source. -/
theorem Made.same_relocation (made : Made tree path session bundle root read copied s)
    (member : relocation ∈ s.relocations) (inside : other ∈ s.relocations)
    (near : related relocation.destination other.destination = true) :
    other.source = relocation.source ∧ other.destination = relocation.destination := by
  have source : other.source = relocation.source := by
    by_contra different
    rw [made.separate.apart relocation member other inside (Ne.symm different)] at near
    cases near
  refine ⟨source, ?_⟩
  -- A source has one destination.
  have one := BundleState.destination?_of_mem made.separate.once member
  have same := BundleState.destination?_of_mem made.separate.once inside
  rw [source, one] at same
  exact (Option.some.inj same).symm

/-- Pointers that begin a common one are related. -/
theorem related_of_append {p p' r r' : Pointer} (same : p ++ r = p' ++ r') :
    related p p' = true := by
  -- Of two beginnings of one pointer, the shorter one begins the longer one.
  rcases List.prefix_or_prefix_of_prefix ⟨r, rfl⟩ ⟨r', same.symm⟩ with ahead | behind
  · simp [related, List.isPrefixOf_iff_prefix.mpr ahead]
  · simp [related, List.isPrefixOf_iff_prefix.mpr behind]

/-- No node on the way along a pointer below a source is a reference. -/
def PlainBelow (workspace : Workspace) (source : Source) (q : Pointer) : Prop :=
  ∀ u, u <+: q → ∀ way, workspace.node? (source.below u) = some way → way.reference? = none

/-- At a destination and below it nothing is inlined, as far as no reference is on the way in the
source, unless the destination is contested. -/
theorem Made.not_inlined (made : Made tree path session bundle root read copied s)
    (faithful : session.Faithful) (member : relocation ∈ s.relocations)
    (clear : ¬ Contested (context tree root) (start tree read root) relocation.destination)
    (plain : PlainBelow (session.workspace tree) relocation.source q) (above : more <+: q)
    (reached : Reaches tree read root entering)
    (site : entering.visit.site = relocation.destination ++ more) :
    ¬ Inlines (context tree root) entering next := by
  intro inlines
  -- The call is at the end of a way, which starts at the root file or at moved content.
  obtain ⟨base, x, begins, leads⟩ := begins_of_reached reached
  have way := leads.site.symm.trans site
  rcases begins with rfl | ⟨caller, reachedCaller, moves⟩
  · -- A way from the root file passes the destination, so the copy has something there.
    change [] ++ x = _ at way
    rw [List.nil_append] at way
    rw [way] at leads
    obtain ⟨middle, passes, _⟩ := leads.split
    have here := passes.site
    change middle.visit.site = [] ++ _ at here
    rw [List.nil_append] at here
    obtain ⟨_, _, _, contested | ⟨shown, found, _⟩⟩ := passes.shows
      (fun call reached => made.reached_distinct faithful reached) .refl made.ran
    · exact clear (here ▸ contested)
    · rw [find?_of_place made.placed made.separate.pairwise member] at found
      cases found
  · -- A way from moved content is one from this content, and it passes no reference.
    obtain ⟨content, t, _, inside⟩ := moves.held (separate_empty _ _) made.ran reachedCaller
    obtain ⟨source, destination⟩ :=
      made.same_relocation member inside (related_of_append way.symm)
    dsimp only at source destination
    rw [destination] at way
    obtain rfl := List.append_cancel_left way
    have standing := made.standing faithful (reachedCaller.tail moves.1.1)
    have clearWay : ∀ u, u <+: x → ∀ inner, base.visit.node.find? u = some inner →
        inner.reference? = none := by
      intro u up inner found
      refine plain u (up.trans above) inner ?_
      rw [Workspace.node?_below, ← source, standing.named, Option.bind_some, found]
    obtain ⟨found, _⟩ := leads.plain (made.reached_distinct faithful (reachedCaller.tail moves.1.1))
      clearWay
    -- But what is inlined is entered at a reference.
    obtain ⟨raw, refers⟩ := inlines.1.refers
    rw [clearWay x List.prefix_rfl _ found] at refers
    cases refers

/-- What is recorded at a destination or below it is the source of the destination, and recorded at
the destination itself. -/
theorem Made.recorded_below (made : Made tree path session bundle root read copied s)
    (faithful : session.Faithful) (member : relocation ∈ s.relocations)
    (clear : ¬ Contested (context tree root) (start tree read root) relocation.destination)
    (plain : PlainBelow (session.workspace tree) relocation.source q) (above : more <+: q)
    {origin : Origin} (recorded : s.provenance.at? (relocation.destination ++ more) = some origin) :
    more = [] ∧ origin = relocation.source ∧
      tree.resolve relocation.source.file.names = .ok relocation.source.file := by
  obtain ⟨entering, next, reached, enters, site, rfl, _⟩ := made.brings recorded
  -- A record is made where content is entered, and at a destination only moved content is.
  rcases enters.1.cases with ⟨_, _, level, _⟩ | inlines | moves
  · exact absurd enters.2 (by omega)
  · exact absurd inlines (made.not_inlined faithful member clear plain above reached
      (inlines.site.symm.trans site))
  · obtain ⟨content, t, _, inside⟩ := moves.held (separate_empty _ _) made.ran reached
    have near : related relocation.destination next.visit.site = true :=
      related_of_append (site.symm.trans (List.append_nil _).symm)
    obtain ⟨source, destination⟩ := made.same_relocation member inside near
    dsimp only at source destination
    rw [site] at destination
    exact ⟨List.append_right_eq_self.mp destination, source, source ▸ enters.resolved⟩

end Bundle

/-- A pointer below a destination is located at the node of the source that the rest of the pointer
leads to, if no node on the way there is a reference: in its file, with its bytes, in the line
behind all line terminators that end at or before it. Destinations that are contested are left
out. -/
theorem moved_content_is_located {tree : FileTree} {path : List PathName}
    {session read after : Session} {root : Document} {copied : Json} {s : BundleState}
    {bundle : Bundle} (faithful : session.Faithful)
    (opened : runFrom (Session.document tree path) session = (.ok root, read))
    (ran : (Bundle.start tree read root).run (Bundle.context tree root) = (.ok copied, s))
    (built : runFrom (Bundle.build tree path) session = (.ok bundle, after))
    {relocation : Relocation} (member : relocation ∈ s.relocations)
    (clear : ¬ Contested (Bundle.context tree root) (Bundle.start tree read root)
      relocation.destination)
    {q : Pointer} {node : Node}
    (found : (session.workspace tree).node? (relocation.source.below q) = some node)
    (plain : Bundle.PlainBelow (session.workspace tree) relocation.source q) :
    ∃ document later,
      (session.workspace tree).document? relocation.source.file = some document ∧
      runFrom (bundle.locate tree (relocation.destination ++ q)) after =
        (.ok ⟨relocation.source.file,
          1 + (terminatorEnds 0 document.text.toList).countP (· ≤ node.span.start), node.span⟩,
          later) := by
  have made := Bundle.made_of_run opened ran built
  -- The root file has nothing at a destination, nor below it.
  have missing : root.root.find? (relocation.destination ++ q) = none := by
    have vacant : root.root.find? relocation.destination = none :=
      made.separate.vacant relocation member
    rw [Node.find?_append, vacant, Option.bind_none]
  -- The longest record that begins the pointer is the one of the destination.
  obtain ⟨origin, recorded⟩ := Option.isSome_iff_exists.mp
    (made.distinct_records.records_iff.mp (made.recorded relocation member))
  obtain ⟨_, rfl, resolved⟩ := made.recorded_below faithful member clear plain List.nil_prefix
    (by rw [List.append_nil]; exact recorded)
  have answer : bundle.provenance.resolve? (relocation.destination ++ q) =
      some (relocation.source.below q) := by
    rw [made.provenance]
    refine Provenance.resolve?_append recorded fun more filled above => ?_
    by_contra held
    obtain ⟨deeper, record⟩ := Option.ne_none_iff_exists'.mp held
    exact filled (made.recorded_below faithful member clear plain above record).1
  obtain ⟨document, stands, held⟩ := Workspace.document_of_node? found
  obtain ⟨later, located⟩ := made.locate_recorded built missing answer resolved stands held
  refine ⟨document, later, stands, ?_⟩
  have place : document.path = relocation.source.file := Session.documentAt?_path stands
  rw [located, Document.locationOf,
    (Session.documentAt?_faithful faithful stands).lineFor, place]

/-- Whether a reference is on the way is seen by looking at each node there. -/
theorem Bundle.PlainBelow.of_all {workspace : Workspace} {source : Source} {q : Pointer}
    (clear : (q.inits.all fun u => (workspace.node? (source.below u)).all fun way =>
      way.reference?.isNone) = true) : Bundle.PlainBelow workspace source q := by
  intro u above way named
  have inside := List.all_eq_true.mp clear u ((List.mem_inits _ _).mpr above)
  rw [named] at inside
  exact Option.isNone_iff_eq_none.mp inside

/-- The item of the moved schema is located in the third line of its file. -/
theorem moved_item_is_located : ∃ root read copied s bundle after content later,
    runFrom (Session.document Bundle.twoFiles [.text "api.yaml"]) .empty = (.ok root, read) ∧
    (Bundle.start Bundle.twoFiles read root).run (Bundle.context Bundle.twoFiles root) =
      (.ok copied, s) ∧
    runFrom (Bundle.build Bundle.twoFiles [.text "api.yaml"]) .empty = (.ok bundle, after) ∧
    ⟨⟨["b.yaml"], ["components", "schemas", "X"]⟩, ["components", "schemas", "b-yaml-X"],
      content⟩ ∈ s.relocations ∧
    ¬ Contested (Bundle.context Bundle.twoFiles root) (Bundle.start Bundle.twoFiles read root)
      ["components", "schemas", "b-yaml-X"] ∧
    runFrom (bundle.locate Bundle.twoFiles ["components", "schemas", "b-yaml-X", "0"]) after =
      (.ok ⟨["b.yaml"], 3, ⟨31, 32⟩⟩, later) := by
  -- That the schema has moved and that nothing contests it is computed; where the item leads is the
  -- theorem.
  obtain ⟨bundle, after, built, clear⟩ := exists_of_answers
    (show (runFrom (Bundle.build Bundle.twoFiles [.text "api.yaml"]) .empty).1.toOption.any
      (fun bundle => decide (bundle.Clear ["components", "schemas", "b-yaml-X"])) = true by
      decide +kernel)
  obtain ⟨root, read, copied, s, made⟩ := Bundle.made_of_build built
  have uncontested := (of_decide_eq_true clear).not_contested made
  obtain ⟨content, member⟩ := made.relocation_of_moves
    (show (⟨["b.yaml"], ["components", "schemas", "X"]⟩, ["components", "schemas", "b-yaml-X"]) ∈
      Bundle.moves Bundle.twoFiles [.text "api.yaml"] .empty by decide +kernel)
  have plain : Bundle.PlainBelow (Session.empty.workspace Bundle.twoFiles)
      ⟨["b.yaml"], ["components", "schemas", "X"]⟩ ["0"] := .of_all (by decide +kernel)
  -- The item is a node of the other file, with two line terminators before it.
  have holds : (((Session.empty.workspace Bundle.twoFiles).node?
      ⟨["b.yaml"], ["components", "schemas", "X", "0"]⟩).map Node.span) = some ⟨31, 32⟩ := by
    decide +kernel
  have lines : ((Session.empty.workspace Bundle.twoFiles).document? ["b.yaml"]).all (fun document =>
      (terminatorEnds 0 document.text.toList).countP (· ≤ 31) = 2) = true := by decide +kernel
  obtain ⟨node, named, span⟩ := Option.map_eq_some_iff.mp holds
  obtain ⟨document, later, stands, located⟩ := moved_content_is_located Session.faithful_empty
    made.opened made.ran built member uncontested (q := ["0"]) named plain
  dsimp only at stands located
  rw [stands, Option.all_some, decide_eq_true_eq] at lines
  rw [span, lines] at located
  exact ⟨root, read, copied, s, bundle, after, content, later, made.opened, made.ran, built, member,
    uncontested, located⟩

/-- A root file that puts content over the parts of its own that a schema of another file moves
into. -/
def Bundle.coveredParts : FileTree :=
  .directory
    [("api.yaml", .file (some ("openapi: 3.0.0\ncomponents:\n  $ref: b.yaml\n  schemas: {}\n" ++
        "x:\n  schema:\n    $ref: c.yaml#/S\n"))),
      ("b.yaml", .file (some "schemas:\n  c-yaml-S:\n    foo:\n      $ref: d.yaml#/D\n")),
      ("c.yaml", .file (some "S:\n  foo: [1]\n")),
      ("d.yaml", .file (some "D: 5\n"))]

/-- Not every pointer into moved content leads back to its source: the list in the schema is located
at a number of another file, which the bundle does not even have. -/
theorem covered_parts_mislead : ∃ root read copied s bundle after content node later,
    runFrom (Session.document Bundle.coveredParts [.text "api.yaml"]) .empty = (.ok root, read) ∧
    (Bundle.start Bundle.coveredParts read root).run (Bundle.context Bundle.coveredParts root) =
      (.ok copied, s) ∧
    runFrom (Bundle.build Bundle.coveredParts [.text "api.yaml"]) .empty = (.ok bundle, after) ∧
    ⟨⟨["c.yaml"], ["S"]⟩, ["components", "schemas", "c-yaml-S"], content⟩ ∈ s.relocations ∧
    (Session.empty.workspace Bundle.coveredParts).node? ⟨["c.yaml"], ["S", "foo"]⟩ = some node ∧
    node.span = ⟨10, 13⟩ ∧
    Bundle.PlainBelow (Session.empty.workspace Bundle.coveredParts) ⟨["c.yaml"], ["S"]⟩ ["foo"] ∧
    runFrom (bundle.locate Bundle.coveredParts ["components", "schemas", "c-yaml-S", "foo"]) after =
      (.ok ⟨["d.yaml"], 1, ⟨3, 4⟩⟩, later) := by
  -- The bundle has moved the schema, its source is a node of the file, and yet another file is
  -- answered. All of it is computed.
  obtain ⟨bundle, after, built⟩ := exists_of_isOk
    (show (runFrom (Bundle.build Bundle.coveredParts [.text "api.yaml"]) .empty).1.isOk = true by
      decide +kernel)
  obtain ⟨root, read, copied, s, made⟩ := Bundle.made_of_build built
  obtain ⟨content, member⟩ := made.relocation_of_moves
    (show (⟨["c.yaml"], ["S"]⟩, ["components", "schemas", "c-yaml-S"]) ∈
      Bundle.moves Bundle.coveredParts [.text "api.yaml"] .empty by decide +kernel)
  have holds : (((Session.empty.workspace Bundle.coveredParts).node?
      ⟨["c.yaml"], ["S", "foo"]⟩).map Node.span) = some ⟨10, 13⟩ := by decide +kernel
  obtain ⟨node, named, span⟩ := Option.map_eq_some_iff.mp holds
  obtain ⟨later, located⟩ := Bundle.exists_of_located ["components", "schemas", "c-yaml-S", "foo"]
    ⟨["d.yaml"], 1, ⟨3, 4⟩⟩ built (by decide +kernel)
  exact ⟨root, read, copied, s, bundle, after, content, node, later, made.opened, made.ran, built,
    member, named, span, .of_all (by decide +kernel), located⟩

end SpecTrace
