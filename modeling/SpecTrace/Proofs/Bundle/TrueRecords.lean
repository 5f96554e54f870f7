import Mathlib.Data.List.Infix
import SpecTrace.Proofs.Bundle.Contained
import SpecTrace.Proofs.Bundle.Written

/-! What records say about a finished bundle: each names a node of the files, and what the bundle
has at its pointer was made of that node, unless the pointer is contested. -/

namespace SpecTrace

open Relation

namespace Bundle

variable {tree : FileTree} {path : List PathName} {session : Session} {bundle : Bundle}
  {root : Document} {read : Session} {copied : Json} {s : BundleState} {base call next : Call}
  {p : Pointer}

/-- A call is reached while a root file is bundled. -/
abbrev Reaches (tree : FileTree) (read : Session) (root : Document) (call : Call) : Prop :=
  ReflTransGen (Calls (context tree root)) (start tree read root) call

/-- The files look the same when the walk begins as before the root file was read. -/
theorem Made.seen (made : Made tree path session bundle root read copied s) :
    read.workspace tree = session.workspace tree :=
  Session.document_workspace made.opened

/-- Every call that is reached stands at a node of the files. -/
theorem Made.standing (made : Made tree path session bundle root read copied s)
    (faithful : session.Faithful) (reached : Reaches tree read root call) :
    Standing (context tree root) (session.workspace tree) call := by
  -- The first call stands at the root node, and every call that is reached stands where one before
  -- it led.
  have still := Session.document_faithful faithful made.opened
  have standing := (standing_start made.opened).reached
    (fun _ _ named => Session.distinct_of_node? still named) reached
  rw [made.seen] at standing
  exact standing

/-- No node that is reached repeats a key. -/
theorem Made.reached_distinct (made : Made tree path session bundle root read copied s)
    (faithful : session.Faithful) (reached : Reaches tree read root call) :
    call.visit.node.Distinct :=
  Session.distinct_of_node? faithful (made.standing faithful reached).named

/-- Every call that is reached answers, and what it leaves is there when the walk ends. -/
theorem Made.answers (made : Made tree path session bundle root read copied s)
    (reached : Reaches tree read root call) :
    ∃ value t, call.run (context tree root) = (.ok value, t) ∧ Goes (context tree root) t s :=
  reached_goes (separate_empty _ _) made.ran reached

/-- No segment is repeated in what was recorded. -/
theorem Made.distinct_records (made : Made tree path session bundle root read copied s) :
    s.provenance.Distinct :=
  made.walked.steps.distinct Provenance.distinct_empty

/-- Every record was brought by the walk. -/
theorem Made.brings (made : Made tree path session bundle root read copied s) {origin : Origin}
    (recorded : s.provenance.at? p = some origin) :
    Brings (context tree root) (start tree read root) p origin :=
  Call.brings made.ran rfl recorded

/-- A value stands at a pointer of the bundle as it was walked: in the copy of the root file, or in
moved content. -/
inductive Stands (bundle : Bundle) (copied : Json) (s : BundleState) (p : Pointer)
    (value : Json) : Prop
  | own (found : copied.find? p = some value)
  | moved {relocation : Relocation} (member : relocation ∈ s.relocations)
    (below : relocation.destination <+: p) (found : bundle.document.find? p = some value)

/-- What is below a value that stands in a bundle stands there as well. -/
theorem Stands.below {value below : Json} {q : Pointer} (stands : Stands bundle copied s p value)
    (found : value.find? q = some below) : Stands bundle copied s (p ++ q) below := by
  -- Either the copy or the bundle is followed further.
  cases stands with
  | own held => exact .own (by rw [Json.find?_append, held, Option.bind_some, found])
  | moved member above held =>
    exact .moved member (above.trans (List.prefix_append _ _))
      (by rw [Json.find?_append, held, Option.bind_some, found])

/-- What was walked of the root file is not at a destination nor below one. -/
theorem Made.outside_copied (made : Made tree path session bundle root read copied s)
    {value : Json} (found : copied.find? p = some value) : Outside s.relocations p := by
  rintro relocation member ⟨rest, rfl⟩
  -- Content is put only where the copy has nothing.
  have vacant := find?_of_place made.placed made.separate.pairwise member
  rw [Json.find?_append, vacant] at found
  cases found

/-- A value that stands in a bundle is found there in its kind, and as it is if it is a scalar. -/
theorem Made.find?_stands (made : Made tree path session bundle root read copied s) {value : Json}
    (stands : Stands bundle copied s p value) :
    ∃ value', bundle.document.find? p = some value' ∧ value'.top = value.top := by
  -- The copy keeps its kind when content is placed in it; moved content stands as it is.
  cases stands with
  | own found =>
    exact find?_place_top made.placed made.separate.pairwise (made.outside_copied found) found
  | moved _ _ found => exact ⟨value, found, rfl⟩

/-- What a call makes at the end of a way stands in the bundle under the members that were put over
it, unless the place is contested. -/
theorem Made.shows (made : Made tree path session bundle root read copied s)
    (faithful : session.Faithful)
    (begins : Begins (context tree root) (start tree read root) base)
    (leads : Leads (context tree root) base p call) :
    ∃ value t, call.run (context tree root) = (.ok value, t) ∧
      (Contested (context tree root) (start tree read root) call.visit.site ∨
        ∃ shown, Stands bundle copied s call.visit.site shown ∧
          Covers (context tree root) (start tree read root) call.visit.site shown value) := by
  have site := leads.site
  have distinct := fun call (reached : Reaches tree read root call) =>
    made.reached_distinct faithful reached
  rcases begins with rfl | ⟨caller, reached, moves⟩
  · -- The way begins with the root file, whose copy has its values at their sites.
    obtain ⟨value, t, answers, shown⟩ := leads.shows distinct .refl made.ran
    refine ⟨value, t, answers, shown.imp id ?_⟩
    rintro ⟨shown, found, covers⟩
    rw [site] at covers ⊢
    exact ⟨shown, .own found, covers⟩
  · -- The way begins with moved content, which is found at its destination.
    obtain ⟨content, t, ran, member⟩ := moves.held (separate_empty _ _) made.ran reached
    obtain ⟨value, t', answers, shown⟩ := leads.shows distinct (reached.tail moves.1.1) ran
    have placed := find?_place_destination made.placed made.separate.pairwise member
    refine ⟨value, t', answers, shown.imp id ?_⟩
    rintro ⟨shown, found, covers⟩
    rw [site] at covers ⊢
    refine ⟨shown, .moved member (List.prefix_append _ _) ?_, covers⟩
    rw [Json.find?_append, placed]
    exact found

/-- Above a contested place there is one at which inlined content is recorded. -/
theorem Made.recorded_above (made : Made tree path session bundle root read copied s)
    (contested : Contested (context tree root) (start tree read root) p) :
    ∃ q, q <+: p ∧ q ≠ p ∧ bundle.provenance.Records q := by
  obtain ⟨site, content, key, rest, ⟨call, reached, replaces, rfl, _⟩, rfl, _⟩ := contested
  -- The content that is contested was recorded at its site.
  obtain ⟨value, t, answers, goes⟩ := made.answers reached
  refine ⟨call.visit.site, List.prefix_append _ _, by simp, ?_⟩
  rw [made.provenance]
  exact goes.steps.records (replaces.records answers)

end Bundle

/-- Every record of a bundle names a node of the files. Unless its pointer is contested, the bundle
has a value there; and below it, as far as no reference is on the way and no member beside a
reference was put over it, each node has a value of its kind, and scalars have themselves. -/
theorem records_are_true {tree : FileTree} {path : List PathName} {session read after : Session}
    {root : Document} {bundle : Bundle} (faithful : session.Faithful)
    (opened : runFrom (Session.document tree path) session = (.ok root, read))
    (built : runFrom (Bundle.build tree path) session = (.ok bundle, after))
    {p : Pointer} {origin : Origin} (recorded : (p, origin) ∈ bundle.provenance.records) :
    ∃ node, (session.workspace tree).node? origin = some node ∧
      (¬ Contested (Bundle.context tree root) (Bundle.start tree read root) p →
        (bundle.document.find? p).isSome ∧
        ∀ q inner, node.find? q = some inner →
          (∀ u, u <+: q → ∀ way, node.find? u = some way → way.reference? = none) →
          (∀ content key,
            Beside (Bundle.context tree root) (Bundle.start tree read root) p content key →
              q.head? ≠ some key) →
          ∃ value, bundle.document.find? (p ++ q) = some value ∧
            value.top = inner.toJson.top) := by
  obtain ⟨copied, s, made⟩ := Bundle.made_of_opened opened built
  -- The record was made when content was entered at its pointer.
  rw [made.provenance, made.distinct_records.mem_records] at recorded
  obtain ⟨entering, next, reached, enters, rfl, rfl, _⟩ := made.brings recorded
  refine ⟨next.visit.node, (made.standing faithful (reached.tail enters.1)).named, ?_⟩
  intro clear
  -- What was entered is at the end of a way, which shows its value in the bundle.
  obtain ⟨base, x, begins, leads⟩ := begins_of_enters reached enters
  obtain ⟨value, t, answers, contested | ⟨shown, stands, covers⟩⟩ :=
    made.shows faithful begins leads
  · exact absurd contested clear
  obtain ⟨top, there, _⟩ := made.find?_stands stands
  refine ⟨by rw [there]; rfl, fun q inner found plain apart => ?_⟩
  -- The values of the content follow its nodes, and what is shown agrees with them.
  obtain ⟨below, s₁, s₂, inside, walked⟩ :=
    (Call.walked answers).follow found fun u above _ way leads => plain u above way leads
  have kind := walked.top (plain q List.prefix_rfl inner found)
  have agrees := covers.find?_top apart
  rw [inside, Option.map_some] at agrees
  obtain ⟨seen, held, same⟩ := Option.map_eq_some_iff.mp agrees
  obtain ⟨value', found', top'⟩ := made.find?_stands (stands.below held)
  exact ⟨value', found', top'.trans (same.trans kind)⟩

/-- Nothing is recorded above a pointer, so that nothing contests it. -/
def Bundle.Clear (bundle : Bundle) (p : Pointer) : Prop :=
  ∀ q ∈ p.inits, q ≠ p → q ∉ bundle.provenance.records.map Prod.fst

instance (bundle : Bundle) (p : Pointer) : Decidable (bundle.Clear p) :=
  inferInstanceAs (Decidable (∀ q ∈ p.inits, _))

/-- Below no record, nothing is contested. -/
theorem Bundle.Clear.not_contested {tree : FileTree} {path : List PathName} {session : Session}
    {bundle : Bundle} {root : Document} {read : Session} {copied : Json} {s : BundleState}
    {p : Pointer} (clear : bundle.Clear p)
    (made : Bundle.Made tree path session bundle root read copied s) :
    ¬ Contested (Bundle.context tree root) (Bundle.start tree read root) p := by
  intro contested
  obtain ⟨q, above, different, recorded⟩ := made.recorded_above contested
  exact clear q ((List.mem_inits _ _).mpr above) different recorded

/-- A key that stands beside no reference of the files is never put over content. -/
theorem Bundle.Made.not_beside {tree : FileTree} {path : List PathName} {session : Session}
    {bundle : Bundle} {root : Document} {read : Session} {copied : Json} {s : BundleState}
    (made : Bundle.Made tree path session bundle root read copied s) (faithful : session.Faithful)
    {key : String} (apart : (session.allSources tree).all (fun source =>
      ((session.workspace tree).node? source).all fun node =>
        node.reference?.isNone || decide (key ∉ node.siblings)) = true)
    {site : Pointer} {content : Json} :
    ¬ Beside (Bundle.context tree root) (Bundle.start tree read root) site content key := by
  rintro ⟨call, reached, replaces, _, sibling⟩
  -- The reference is a node of the files.
  have named := (made.standing faithful reached).named
  have checked := List.all_eq_true.mp apart _ (Session.mem_allSources named)
  rw [named, Option.all_some, Bool.or_eq_true, decide_eq_true_eq] at checked
  rcases checked with plain | absent
  · cases replaces with
    | intro refers _ =>
      dsimp only at plain
      rw [refers] at plain
      cases plain
  · exact absent sibling

/-- A root file with an object of another file in the place of a reference, and a member beside
it. -/
def Bundle.besideInlined : FileTree :=
  .directory
    [("api.yaml", .file (some "openapi: 3.0.0\nx:\n  $ref: b.yaml#/B\n  k: 1\n")),
      ("b.yaml", .file (some "B:\n  a: two\n"))]

/-- The record of the object names its node, and the bundle has an object there, with the text that
the node has. -/
theorem inlined_record_is_true : ∃ root read bundle after node inner value,
    runFrom (Session.document Bundle.besideInlined [.text "api.yaml"]) .empty = (.ok root, read) ∧
    runFrom (Bundle.build Bundle.besideInlined [.text "api.yaml"]) .empty = (.ok bundle, after) ∧
    (["x"], ⟨["b.yaml"], ["B"]⟩) ∈ bundle.provenance.records ∧
    ¬ Contested (Bundle.context Bundle.besideInlined root)
      (Bundle.start Bundle.besideInlined read root) ["x"] ∧
    (Session.empty.workspace Bundle.besideInlined).node? ⟨["b.yaml"], ["B"]⟩ = some node ∧
    (bundle.document.find? ["x"]).isSome ∧
    node.find? ["a"] = some inner ∧ inner.toJson.string? = some "two" ∧
    bundle.document.find? ["x", "a"] = some value ∧ value.top = inner.toJson.top := by
  -- The record and the way to it are computed. That its node stands there is the theorem, and so is
  -- that the text below it is kept.
  obtain ⟨bundle, after, built, facts⟩ := exists_of_answers
    (show (runFrom (Bundle.build Bundle.besideInlined [.text "api.yaml"]) .empty).1.toOption.any
      (fun bundle => decide ((["x"], ⟨["b.yaml"], ["B"]⟩) ∈ bundle.provenance.records ∧
        bundle.Clear ["x"])) = true by decide +kernel)
  obtain ⟨recorded, clear⟩ := of_decide_eq_true facts
  obtain ⟨root, read, copied, s, made⟩ := Bundle.made_of_build built
  have uncontested := clear.not_contested made
  obtain ⟨node, named, holds⟩ :=
    records_are_true Session.faithful_empty made.opened built recorded
  obtain ⟨there, below⟩ := holds uncontested
  -- The object has a text under the key, and neither is a reference.
  have parts : ((Session.empty.workspace Bundle.besideInlined).node? ⟨["b.yaml"], ["B"]⟩).all
      (fun node => node.reference?.isNone && (node.find? ["a"]).any fun inner =>
        inner.reference?.isNone && decide (inner.toJson.string? = some "two")) = true := by
    decide +kernel
  rw [named, Option.all_some, Bool.and_eq_true] at parts
  obtain ⟨plain, inside⟩ := parts
  cases found : node.find? ["a"] with
  | none =>
    rw [found] at inside
    cases inside
  | some inner =>
    rw [found, Option.any_some, Bool.and_eq_true, decide_eq_true_eq] at inside
    obtain ⟨leaf, text⟩ := inside
    obtain ⟨value, shown, kind⟩ := below ["a"] inner found
      (fun u above way leads => by
        rcases List.prefix_cons_iff.mp above with rfl | ⟨v, rfl, rest⟩
        · cases leads
          exact Option.isNone_iff_eq_none.mp plain
        · obtain rfl := List.prefix_nil.mp rest
          rw [found] at leads
          cases leads
          exact Option.isNone_iff_eq_none.mp leaf)
      (fun content key beside same => by
        obtain rfl := Option.some.inj same
        exact made.not_beside Session.faithful_empty (by decide +kernel) beside)
    exact ⟨root, read, bundle, after, node, inner, value, made.opened, built, recorded, uncontested,
      named, there, found, text, shown, kind⟩

/-- A root file that hides a member of inlined content, inside of which more content was inlined. -/
def Bundle.hiddenContent : FileTree :=
  .directory
    [("api.yaml", .file (some "openapi: 3.0.0\nx:\n  $ref: b.yaml\n  k: 1\n")),
      ("b.yaml", .file (some "k:\n  foo:\n    $ref: c.yaml\n")),
      ("c.yaml", .file (some "5\n"))]

/-- Not every record is true of the bundle: the content in the hidden member is still recorded,
though nothing is at its pointer. -/
theorem hidden_content_is_recorded : ∃ bundle after,
    runFrom (Bundle.build Bundle.hiddenContent [.text "api.yaml"]) .empty = (.ok bundle, after) ∧
    (["x", "k", "foo"], ⟨["c.yaml"], []⟩) ∈ bundle.provenance.records ∧
    (bundle.document.find? ["x", "k", "foo"]).isNone = true := by
  -- Both halves are computed: the record is listed, and nothing is at its pointer.
  obtain ⟨bundle, after, built, facts⟩ := exists_of_answers
    (show (runFrom (Bundle.build Bundle.hiddenContent [.text "api.yaml"]) .empty).1.toOption.any
      (fun bundle => decide ((["x", "k", "foo"], ⟨["c.yaml"], []⟩) ∈ bundle.provenance.records ∧
        (bundle.document.find? ["x", "k", "foo"]).isNone = true)) = true by decide +kernel)
  exact ⟨bundle, after, built, of_decide_eq_true facts⟩

end SpecTrace
