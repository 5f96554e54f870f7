import SpecTrace.Proofs.Locate.Locating

/-! Locating the scalars of a bundle: each is found where it was written, or at the reference in
whose place it stands, unless members beside a reference come between it and its record. -/

namespace SpecTrace

open Relation

/-- A pointer goes astray: a member beside a reference and the content in its place meet on the way,
and the locator does not see which of them the bundle has. It knows nodes of the root file and
records of content, but members beside a reference are not recorded. -/
inductive Strays (context : BundleContext) (first : Call) (provenance : Provenance) (p : Pointer) :
    Prop
  /-- The root file has a node there, but inside of a member that was dropped. -/
  | dropped (held : (context.root.root.find? p).isSome) (drops : Dropped context first p)
  /-- The record is that of the content, but a member beside the reference is on the way. -/
  | beside {site content key rest} (missing : context.root.root.find? p = none)
    (split : p = site ++ key :: rest) (longest : provenance.Longest site (key :: rest))
    (sibling : Beside context first site content key) (object : content.members?.isSome)
  /-- The record is that of content that is hidden. -/
  | contested {site rest} (missing : context.root.root.find? p = none)
    (split : p = site ++ rest) (longest : provenance.Longest site rest)
    (hidden : Contested context first site)

namespace Bundle

variable {tree : FileTree} {path : List PathName} {session after : Session} {bundle : Bundle}
  {root : Document} {read : Session} {copied : Json} {s : BundleState} {p q rest : Pointer}
  {scalar : Scalar} {node : Node}

/-- A scalar at a place of the root file is the node there, or it took the place of a reference
there, unless a member on the way was dropped. -/
theorem Made.own_scalar (made : Made tree path session bundle root read copied s)
    (faithful : session.Faithful) (held : root.root.find? p = some node)
    (found : bundle.document.find? p = some scalar.toJson) (other : ∀ q, p ≠ q ++ [referenceKey]) :
    Dropped (context tree root) (start tree read root) p ∨ (∃ span, node = .scalar scalar span) ∨
      ∃ call, Reaches tree read root call ∧ call.visit = ⟨⟨root.path, p⟩, node, p, []⟩ ∧
        Replaces (context tree root) call scalar.toJson := by
  -- Nothing moves to a place of the root file, so the scalar is in the copy of that file.
  have copy := scalar_of_place made.placed (made.outside held) found
  rcases Call.comes made.ran .refl (made.reached_distinct faithful .refl) held other with
    dropped | ⟨call, below, t, reached, visit, answers, stands⟩
  · exact Or.inl dropped
  · rw [copy] at stands
    cases stands
    -- The call that made it copied a scalar of the file or put content in its place.
    rcases (Call.walked answers).of_scalar with ⟨span, shape⟩ | replaces
    · exact Or.inr (Or.inl ⟨span, by rw [visit] at shape; exact shape⟩)
    · exact Or.inr (Or.inr ⟨call, reached, visit, replaces⟩)

/-- A scalar that the root file has no node for is at a recorded pointer or below one. -/
theorem Made.recorded_of_missing (made : Made tree path session bundle root read copied s)
    (faithful : session.Faithful) (missing : root.root.find? p = none)
    (found : bundle.document.find? p = some scalar.toJson) (other : ∀ q, p ≠ q ++ [referenceKey]) :
    ∃ q, q <+: p ∧ s.provenance.Records q := by
  by_cases below : ∃ relocation ∈ s.relocations, relocation.destination <+: p
  · -- Destinations are recorded.
    obtain ⟨relocation, member, above⟩ := below
    exact ⟨_, above, made.recorded relocation member⟩
  · -- The scalar is in the copy of the root file, but it was not written there.
    have copy := scalar_of_place made.placed
      (fun relocation member above => below ⟨relocation, member, above⟩) found
    rcases made.walked.written (made.reached_distinct faithful .refl) copy other with
      ⟨span, written⟩ | ⟨content, replaces⟩ | ⟨q, _, above, recorded⟩
    · dsimp only at written
      rw [missing] at written
      cases written
    · exact ⟨[], List.nil_prefix, replaces.records made.ran⟩
    · exact ⟨q, above, recorded⟩

/-- Nothing is recorded behind the longest recorded pointer, so no call there leaves a record. -/
theorem Made.unrecorded (made : Made tree path session bundle root read copied s)
    (longest : s.provenance.Longest q rest) {more : Pointer} (filled : more ≠ [])
    (above : more <+: rest) : ¬ s.provenance.Records (q ++ more) := by
  intro recorded
  rw [made.distinct_records.records_iff, longest.deepest more filled above] at recorded
  cases recorded

/-- A scalar that a call made was written in its node, if no content took its place and nothing is
recorded behind its site. -/
theorem Made.written_below (made : Made tree path session bundle root read copied s)
    (faithful : session.Faithful) {call : Call} (reached : Reaches tree read root call)
    (own : ∀ content, ¬ Replaces (context tree root) call content)
    (longest : s.provenance.Longest call.visit.site rest) {value : Json} {t : BundleState}
    (answers : call.run (context tree root) = (.ok value, t))
    (found : value.find? rest = some scalar.toJson) (other : ∀ q, rest ≠ q ++ [referenceKey]) :
    ∃ span, call.visit.node.find? rest = some (.scalar scalar span) := by
  obtain ⟨_, _, again, goes⟩ := made.answers reached
  rw [answers] at again
  cases again
  rcases (Call.walked answers).written (made.reached_distinct faithful reached) found other with
    written | ⟨content, replaces⟩ | ⟨more, filled, above, recorded⟩
  · exact written
  -- Both content in its place and content further below would be recorded.
  · exact absurd replaces (own content)
  · exact absurd (goes.steps.records recorded) (made.unrecorded longest filled above)

/-- A scalar stands in what the bundle has at the longest recorded pointer that begins its own. -/
theorem Made.find?_shown (made : Made tree path session bundle root read copied s)
    (longest : s.provenance.Longest q rest) {shown : Json} (stands : Stands bundle copied s q shown)
    (found : bundle.document.find? (q ++ rest) = some scalar.toJson) :
    shown.find? rest = some scalar.toJson := by
  -- At a destination the bundle has the content, elsewhere the copy of the root file.
  cases stands with
  | moved _ _ held => rwa [Json.find?_append, held, Option.bind_some] at found
  | own held =>
    -- The pointer is not at a destination either, so what it leads to is in the copy.
    have outside : Outside s.relocations (q ++ rest) := by
      intro relocation member above
      rcases List.prefix_or_prefix_of_prefix above (List.prefix_append q rest) with inside | deeper
      · exact made.outside_copied held relocation member inside
      · -- The destination is recorded as well, so it cannot be longer.
        obtain ⟨more, split⟩ := deeper
        by_cases ends : more = []
        · rw [ends, List.append_nil] at split
          exact made.outside_copied held relocation member (split ▸ List.prefix_rfl)
        · rw [← split, List.prefix_append_right_inj] at above
          exact made.unrecorded longest ends above (split ▸ made.recorded relocation member)
    have copy := scalar_of_place made.placed outside found
    rwa [Json.find?_append, held, Option.bind_some] at copy

/-- A scalar was written in the content of the longest record that begins its pointer, unless the
content is hidden or a member beside the reference is on the way. -/
theorem Made.recorded_scalar (made : Made tree path session bundle root read copied s)
    (faithful : session.Faithful) (longest : s.provenance.Longest q rest)
    (found : bundle.document.find? (q ++ rest) = some scalar.toJson)
    (other : ∀ u, rest ≠ u ++ [referenceKey]) :
    Contested (context tree root) (start tree read root) q ∨
      (∃ content key behind, rest = key :: behind ∧ content.members?.isSome ∧
        Beside (context tree root) (start tree read root) q content key) ∨
      ∃ entering next span, Reaches tree read root entering ∧
        Enters (context tree root) entering next ∧ next.visit.site = q ∧
        s.provenance.at? q = some next.visit.origin ∧
        next.visit.node.find? rest = some (.scalar scalar span) := by
  -- The record was made when content was entered at its pointer, at the end of a way.
  obtain ⟨origin, recorded⟩ := Option.isSome_iff_exists.mp longest.recorded
  obtain ⟨entering, next, reached, enters, rfl, rfl, own⟩ := made.brings recorded
  obtain ⟨base, x, begins, leads⟩ := begins_of_enters reached enters
  obtain ⟨value, t, answers, contested | ⟨shown, stands, covers⟩⟩ :=
    made.shows faithful begins leads
  · exact Or.inl contested
  have held := made.find?_shown longest stands found
  have inner := reached.tail enters.1
  -- What is shown has the scalar from the value, or from a member that was put over it.
  have source : (∃ content key behind, rest = key :: behind ∧ content.members?.isSome ∧
      Beside (context tree root) (start tree read root) next.visit.site content key) ∨
      value.find? rest = some scalar.toJson := by
    cases rest with
    | nil =>
      rw [Json.find?, Option.some.injEq] at held
      subst held
      exact Or.inr (congrArg some (Json.top_eq_scalar.mp
        (covers.top.symm.trans (Json.top_eq_scalar.mpr rfl))))
    | cons key behind =>
      rcases covers.child key with same | ⟨_, _, overlaid⟩
      · right
        rw [← held, Json.find?, Json.find?, same]
      · obtain ⟨content, beside, object⟩ := overlaid.beside
        exact Or.inl ⟨content, key, behind, rfl, object, beside⟩
  rcases source with beside | held
  · exact Or.inr (Or.inl beside)
  · obtain ⟨span, written⟩ := made.written_below faithful inner own longest answers held other
    exact Or.inr (Or.inr ⟨entering, next, span, reached, enters, rfl, recorded, written⟩)

end Bundle

/-- Every scalar of a bundle, but for texts under the key of references, is located at the node that
it was written in or at a reference whose content it is, unless its pointer goes astray. -/
theorem values_are_located {tree : FileTree} {path : List PathName} {session read after : Session}
    {root : Document} {bundle : Bundle} (faithful : session.Faithful)
    (opened : runFrom (Session.document tree path) session = (.ok root, read))
    (built : runFrom (Bundle.build tree path) session = (.ok bundle, after))
    {p : Pointer} {scalar : Scalar} (found : bundle.document.find? p = some scalar.toJson)
    (other : ∀ q, p ≠ q ++ [referenceKey])
    (clear : ¬ Strays (Bundle.context tree root) (Bundle.start tree read root) bundle.provenance
      p) :
    ∃ document pointer node later,
      (session.workspace tree).document? document.path = some document ∧
      document.root.find? pointer = some node ∧
      runFrom (bundle.locate tree p) after = (.ok (document.locationOf node), later) ∧
      ((∃ span, node = .scalar scalar span) ∨
        ∃ call, Bundle.Reaches tree read root call ∧ call.visit.site = p ∧
          call.visit.origin = ⟨document.path, pointer⟩ ∧ call.visit.node = node ∧
          Replaces (Bundle.context tree root) call scalar.toJson) := by
  obtain ⟨copied, s, made⟩ := Bundle.made_of_opened opened built
  cases held : root.root.find? p with
  | some node =>
    -- The root file decides.
    obtain ⟨later, located⟩ := made.locate_root built held
    refine ⟨root, p, node, later, made.home, held, located, ?_⟩
    rcases made.own_scalar faithful held found other with
      dropped | own | ⟨call, reached, visit, replaces⟩
    · exact absurd (.dropped (by rw [Bundle.context, held]; rfl) dropped) clear
    · exact Or.inl own
    · exact Or.inr ⟨call, reached, by rw [visit], by rw [visit], by rw [visit], replaces⟩
  | none =>
    -- The longest record that begins the pointer decides, and there is one.
    obtain ⟨u, above, recorded⟩ := made.recorded_of_missing faithful held found other
    rcases s.provenance.longest_recorded p with nothing | ⟨q, rest, rfl, longest⟩
    · rw [made.distinct_records.records_iff, nothing u above] at recorded
      cases recorded
    rw [made.provenance] at clear
    rcases made.recorded_scalar faithful longest found
      (fun u same => other (q ++ u) (by rw [same, List.append_assoc])) with
      hidden | ⟨content, key, behind, rfl, object, beside⟩ |
        ⟨entering, next, span, reached, enters, rfl, names, written⟩
    · exact absurd (.contested held rfl longest hidden) clear
    · exact absurd (.beside held rfl longest beside object) clear
    · obtain ⟨document, later, stands, leads, located⟩ :=
        made.locate_entered faithful built reached enters longest names held written
      exact ⟨document, _, _, later, stands, leads, located, Or.inl ⟨span, rfl⟩⟩

/-- A value that is a text is found as one. -/
theorem Json.text_of_string? {value : Option Json} {text : String}
    (held : value.bind Json.string? = some text) : value = some (Scalar.string text).toJson := by
  obtain ⟨inner, rfl, same⟩ := Option.bind_eq_some_iff.mp held
  cases inner <;> cases same
  rfl

/-- Below no record, no pointer goes astray. -/
theorem Bundle.Clear.not_strays {tree : FileTree} {path : List PathName} {session : Session}
    {bundle : Bundle} {root : Document} {read : Session} {copied : Json} {s : BundleState}
    {p : Pointer} (clear : bundle.Clear p)
    (made : Bundle.Made tree path session bundle root read copied s) :
    ¬ Strays (Bundle.context tree root) (Bundle.start tree read root) bundle.provenance p := by
  have distinct : bundle.provenance.Distinct := made.provenance ▸ made.distinct_records
  intro strays
  -- Each way to go astray needs a record above the pointer.
  cases strays with
  | dropped _ drops =>
    obtain ⟨site, content, key, rest, beside, split, flat⟩ := drops
    exact clear.not_contested made ⟨site, content, key, rest, beside, split, Or.inl flat⟩
  | beside _ split longest _ _ =>
    -- The record of the content stands above the pointer.
    subst split
    exact clear _ ((List.mem_inits _ _).mpr (List.prefix_append _ _)) (by simp)
      (distinct.records_iff.mpr longest.recorded)
  | contested _ split _ hidden =>
    -- Above the record there is another one.
    obtain ⟨q, above, different, recorded⟩ := made.recorded_above hidden
    subst split
    refine clear q ((List.mem_inits _ _).mpr (above.trans (List.prefix_append _ _))) ?_ recorded
    intro same
    exact different (above.eq_of_length_le (by rw [same]; simp))

/-- A root file that refers to a schema of another file, which is a text. -/
def Bundle.movedText : FileTree :=
  .directory
    [("api.yaml", .file (some "openapi: 3.0.0\nx:\n  $ref: b.yaml#/components/schemas/X\n")),
      ("b.yaml", .file (some "components:\n  schemas:\n    X: text\n"))]

/-- The text is located in the third line of its file. -/
theorem moved_text_is_located : ∃ root read bundle after later,
    ∃ (document : Document) (node : Node),
    runFrom (Session.document Bundle.movedText [.text "api.yaml"]) .empty = (.ok root, read) ∧
    runFrom (Bundle.build Bundle.movedText [.text "api.yaml"]) .empty = (.ok bundle, after) ∧
    bundle.document.find? ["components", "schemas", "b-yaml-X"] =
      some (Scalar.string "text").toJson ∧
    ¬ Strays (Bundle.context Bundle.movedText root) (Bundle.start Bundle.movedText read root)
      bundle.provenance ["components", "schemas", "b-yaml-X"] ∧
    runFrom (bundle.locate Bundle.movedText ["components", "schemas", "b-yaml-X"]) after =
      (.ok (document.locationOf node), later) ∧
    document.locationOf node = ⟨["b.yaml"], 3, ⟨30, 34⟩⟩ ∧
    ((∃ span, node = .scalar (.string "text") span) ∨
      ∃ call, call.visit.node = node ∧
        Replaces (Bundle.context Bundle.movedText root) call (Scalar.string "text").toJson) := by
  -- Of the two nodes that the theorem leaves open, asking for the place tells which one it is.
  obtain ⟨bundle, after, built, facts⟩ := exists_of_answers
    (show (runFrom (Bundle.build Bundle.movedText [.text "api.yaml"]) .empty).1.toOption.any
      (fun bundle => decide (bundle.Clear ["components", "schemas", "b-yaml-X"] ∧
        (bundle.document.find? ["components", "schemas", "b-yaml-X"]).bind Json.string? =
          some "text")) = true by decide +kernel)
  obtain ⟨clear, text⟩ := of_decide_eq_true facts
  obtain ⟨root, read, copied, s, made⟩ := Bundle.made_of_build built
  have found := Json.text_of_string? text
  have steady := clear.not_strays made
  obtain ⟨document, pointer, node, later, stands, held, located, own⟩ :=
    values_are_located Session.faithful_empty made.opened built found
      (fun q same => absurd (congrArg List.getLast? same) (by simp [referenceKey])) steady
  -- The place is told by asking for it.
  obtain ⟨last, asked⟩ := Bundle.exists_of_located ["components", "schemas", "b-yaml-X"]
    ⟨["b.yaml"], 3, ⟨30, 34⟩⟩ built (by decide +kernel)
  have place := Except.ok.inj (Prod.mk.inj (located.symm.trans asked)).1
  refine ⟨root, read, bundle, after, later, document, node, made.opened, built, found, steady,
    located, place, own.imp id ?_⟩
  rintro ⟨call, _, _, _, here, replaces⟩
  exact ⟨call, here, replaces⟩

/-- A file that puts members beside a reference, in whose place there is content of another file. -/
def Bundle.overlaidContent : FileTree :=
  .directory
    [("api.yaml", .file (some "openapi: 3.0.0\nx:\n  $ref: b.yaml\n")),
      ("b.yaml", .file (some "y:\n  $ref: c.yaml\n  k: own\n  m: more\n")),
      ("c.yaml", .file (some "k: other\n"))]

/-- Not every value is located where it was written: one of the members is located at a text of the
content that it hides, and the other one nowhere. -/
theorem overlaid_values_mislead : ∃ bundle after later,
    runFrom (Bundle.build Bundle.overlaidContent [.text "api.yaml"]) .empty = (.ok bundle, after) ∧
    bundle.document.find? ["x", "y", "k"] = some (Scalar.string "own").toJson ∧
    bundle.document.find? ["x", "y", "m"] = some (Scalar.string "more").toJson ∧
    runFrom (bundle.locate Bundle.overlaidContent ["x", "y", "k"]) after =
      (.ok ⟨["c.yaml"], 1, ⟨3, 8⟩⟩, later) ∧
    (((Session.empty.workspace Bundle.overlaidContent).node? ⟨["c.yaml"], ["k"]⟩).map fun node =>
      (node.span, node.toJson.string?)) = some (⟨3, 8⟩, some "other") ∧
    (runFrom (bundle.locate Bundle.overlaidContent ["x", "y", "m"]) after).1.isOk = false := by
  -- What the members hold and where they are located is computed; one is located elsewhere and one
  -- not at all.
  obtain ⟨bundle, after, built, facts⟩ := exists_of_answers
    (show (runFrom (Bundle.build Bundle.overlaidContent [.text "api.yaml"]) .empty).1.toOption.any
      (fun bundle => decide
        ((bundle.document.find? ["x", "y", "k"]).bind Json.string? = some "own" ∧
          (bundle.document.find? ["x", "y", "m"]).bind Json.string? = some "more")) = true by
      decide +kernel)
  obtain ⟨own, more⟩ := of_decide_eq_true facts
  obtain ⟨later, located⟩ := Bundle.exists_of_located ["x", "y", "k"] ⟨["c.yaml"], 1, ⟨3, 8⟩⟩ built
    (by decide +kernel)
  have nowhere : (runFrom (Bundle.build Bundle.overlaidContent [.text "api.yaml"] >>= fun bundle =>
      bundle.locate Bundle.overlaidContent ["x", "y", "m"]) .empty).1.isOk = false := by
    decide +kernel
  rw [runFrom_bind_ok built] at nowhere
  exact ⟨bundle, after, later, built, Json.text_of_string? own, Json.text_of_string? more, located,
    by decide +kernel, nowhere⟩

end SpecTrace
