import Mathlib.Data.List.Forall2
import SpecTrace.Proofs.Audit.Transparency
import SpecTrace.Proofs.Locate.Order

/-! What a report finds: every occurrence of an issue is reported once, by itself, and the largest
scores come first. -/

namespace SpecTrace

/-! ### Findings -/

/-- A group of a report with its id and the criticality that its category has by default. -/
structure GroupEntry where
  default : Int
  id : String
  group : IssueGroup

/-- The criticality of a group: the default of its category if the group has none or zero, and its
own one otherwise. -/
def GroupEntry.criticality (entry : GroupEntry) : Int :=
  match entry.group.criticality with
  | none | some 0 => entry.default
  | some own => own

/-- The criticality of a group is the one that its issues are reported with. -/
theorem GroupEntry.criticality_eq (entry : GroupEntry) :
    entry.group.criticalityOr entry.default = entry.criticality := by
  -- No criticality and a zero are the two that stand for the default.
  unfold IssueGroup.criticalityOr GroupEntry.criticality
  cases own : entry.group.criticality with
  | none => rfl
  | some criticality =>
    by_cases zero : criticality = 0
    · subst zero
      rfl
    · simp [zero]

/-- One occurrence of an issue and the group it belongs to. -/
structure Finding where
  entry : GroupEntry
  sub : SubIssue

/-- The score of an occurrence; without one it is zero. -/
def Finding.score (finding : Finding) : Finite64 :=
  finding.sub.score.getD .zero

/-- The occurrences in a group. -/
def GroupEntry.findings (entry : GroupEntry) : List Finding :=
  entry.group.issues.map fun sub => ⟨entry, sub⟩

/-- The groups of a category, if there is one. -/
def entriesOf (default : Int) : Option Category → List GroupEntry
  | none => []
  | some category => category.issues.map fun (id, group) => ⟨default, id, group⟩

namespace Assessment

/-- The groups of a report in its order. -/
def entries (a : Assessment) : List GroupEntry :=
  entriesOf defaultCriticality a.data ++ entriesOf defaultCriticality a.security ++
    entriesOf warningCriticality a.warnings ++ entriesOf defaultCriticality a.semanticErrors ++
    entriesOf defaultCriticality a.validationErrors

/-- All occurrences of issues in a report, in its order. -/
def findings (a : Assessment) : List Finding :=
  a.entries.flatMap GroupEntry.findings

end Assessment

namespace Locator

/-- What locating a pointer answers in a new session. -/
def answer (locator : Locator) (pointer : Pointer) : Except AuditFault Location :=
  (runFrom (locator.locate pointer) .empty).1

/-- An issue has the place of a pointer. If the pointer leads nowhere, this is the root file. -/
inductive HasPlace (locator : Locator) (pointer : Pointer) (issue : Issue) : Prop
  | found {location : Location} (answered : locator.answer pointer = .ok location)
    (file : issue.file = location.file.text) (line : issue.line = some location.line)
    (span : issue.span = some location.span)
  | nowhere {fault : AuditFault} (failed : locator.answer pointer = .error fault)
    (single : fault.isPerIssue = true) (file : issue.file = locator.root.path.text)
    (line : issue.line = none) (span : issue.span = none)

/-- The issue that an occurrence is reported as, given the table of pointers. -/
structure Reports (locator : Locator) (index : PointerTable) (finding : Finding) (issue : Issue) :
    Prop where
  id : issue.id = finding.entry.id
  description : issue.description =
    (finding.sub.specificDescription.or finding.entry.group.description).getD ""
  pointer : index.get? finding.sub.pointer = some issue.pointer
  place : locator.HasPlace (Pointer.parse issue.pointer) issue
  criticality : issue.criticality = finding.entry.criticality
  severity : Severity.ofCriticality finding.entry.criticality = .ok issue.severity
  score : issue.score = .finite finding.score.abs
  displayScore : issue.displayScore = Binary64.displayScore (.finite finding.score)

end Locator

/-! ### Steps for the elements of a list -/

section

variable {tree : FileTree} {session : Session} {α β : Type}

/-- A computation that sees of its session only what is answered there ends as in a new session. -/
theorem Session.Current.answers (current : session.Current tree) {m : Auditing α}
    (alike : Parallel (Session.BothCurrent tree) False m m) :
    (runFrom m session).1 = (runFrom m .empty).1 ∧ (runFrom m session).2.Current tree := by
  rcases alike session .empty ⟨current, Session.current_empty tree⟩ with ⟨never, _⟩ | ⟨same, kept⟩
  · exact never.elim
  · exact ⟨same, kept.1⟩

/-- Computations one after the other answer what each of them answers in a new session. -/
theorem Session.Current.mapM_eq_ok (current : session.Current tree) {f : α → Auditing β}
    (alike : ∀ a, Parallel (Session.BothCurrent tree) False (f a) (f a)) {list : List α}
    {answers : List β} : (runFrom (list.mapM f) session).1 = .ok answers ↔
      List.Forall₂ (fun a b => (runFrom (f a) .empty).1 = .ok b) list answers := by
  -- By induction on the list, in whatever current session it is run.
  induction list generalizing session answers with
  | nil =>
    rw [List.forall₂_nil_left_iff, List.mapM_nil, runFrom_pure, Except.ok.injEq]
    exact eq_comm
  | cons a rest ih =>
    -- The first one leaves a session that is current, in which the others run.
    obtain ⟨same, kept⟩ := current.answers (alike a)
    rw [List.mapM_cons, List.forall₂_cons_left_iff, runFrom_bind_eq_ok, same]
    constructor
    · rintro ⟨b, first, answered⟩
      obtain ⟨bs, others, last⟩ := runFrom_bind_eq_ok.mp answered
      cases last
      exact ⟨b, bs, first, (ih kept).mp others, rfl⟩
    · rintro ⟨b, bs, first, others, rfl⟩
      exact ⟨b, first, runFrom_bind_eq_ok.mpr ⟨bs, (ih kept).mpr others, rfl⟩⟩

/-- Related elements of concatenated lists are those of their parts. -/
theorem forall₂_append_left_iff {R : α → β → Prop} {front back : List α} {list : List β} :
    List.Forall₂ R (front ++ back) list ↔
      ∃ first second, List.Forall₂ R front first ∧ List.Forall₂ R back second ∧
        list = first ++ second := by
  -- By induction on the first part.
  induction front generalizing list with
  | nil => simp [List.forall₂_nil_left_iff]
  | cons a front ih =>
    rw [List.cons_append, List.forall₂_cons_left_iff]
    constructor
    · rintro ⟨b, rest, one, others, rfl⟩
      obtain ⟨first, second, before, behind, rfl⟩ := ih.mp others
      exact ⟨b :: first, second, .cons one before, behind, rfl⟩
    · rintro ⟨first, second, before, behind, rfl⟩
      obtain ⟨b, rest, one, others, rfl⟩ := List.forall₂_cons_left_iff.mp before
      exact ⟨b, rest ++ second, one, ih.mpr ⟨rest, second, others, behind, rfl⟩, rfl⟩

end

/-! ### Reports -/

namespace Locator

variable {locator : Locator} {index : PointerTable} {finding : Finding} {issue : Issue}
  {session : Session}

/-- A pointer that leads nowhere is no fault of a report. -/
theorem tryLocate_eq_ok {pointer : Pointer} {location : Option Location} {s : Session} :
    (runFrom (locator.tryLocate pointer) s).1 = .ok location ↔
      (∃ place, (runFrom (locator.locate pointer) s).1 = .ok place ∧ location = some place) ∨
      ∃ fault, (runFrom (locator.locate pointer) s).1 = .error fault ∧ fault.isPerIssue = true ∧
        location = none := by
  unfold tryLocate
  rw [runFrom_tryCatch, runFrom_bind]
  rcases runFrom (locator.locate pointer) s with ⟨answer, after⟩
  -- A place is passed on; a fault is kept, or forgotten if it concerns this issue only.
  cases answer with
  | ok place =>
    constructor
    · intro tried
      cases tried
      exact .inl ⟨place, rfl, rfl⟩
    · rintro (⟨_, same, rfl⟩ | ⟨_, failed, _⟩)
      · cases same
        rfl
      · cases failed
  | error fault =>
    dsimp only
    split
    · rename_i single
      constructor
      · intro tried
        cases tried
        exact .inr ⟨fault, rfl, single, rfl⟩
      · rintro (⟨_, same, _⟩ | ⟨_, _, _, rfl⟩)
        · cases same
        · rfl
    · rename_i whole
      constructor
      · intro tried
        cases tried
      · rintro (⟨_, same, _⟩ | ⟨_, same, single, _⟩)
        · cases same
        · cases same
          exact absurd single whole

/-- The place of an issue is what the attempt to locate its pointer answered. -/
theorem hasPlace_iff {pointer : Pointer} : locator.HasPlace pointer issue ↔
    ∃ location, (runFrom (locator.tryLocate pointer) .empty).1 = .ok location ∧
      issue.file = ((location.map Location.file).getD locator.root.path).text ∧
      issue.line = location.map Location.line ∧ issue.span = location.map Location.span := by
  -- The four ways are the two answers of the locator, each with the place that it comes to.
  constructor
  · rintro (⟨answered, file, line, span⟩ | ⟨failed, single, file, line, span⟩)
    · exact ⟨_, tryLocate_eq_ok.mpr (.inl ⟨_, answered, rfl⟩), file, line, span⟩
    · exact ⟨_, tryLocate_eq_ok.mpr (.inr ⟨_, failed, single, rfl⟩), file, line, span⟩
  · rintro ⟨location, tried, file, line, span⟩
    rcases tryLocate_eq_ok.mp tried with ⟨place, answered, rfl⟩ | ⟨fault, failed, single, rfl⟩
    · exact .found answered file line span
    · exact .nowhere failed single file line span

/-- An occurrence is answered as the issue that it is reported as. -/
theorem issue_eq_ok {severity : Severity}
    (known : Severity.ofCriticality finding.entry.criticality = .ok severity) :
    (runFrom (locator.issue index
        ⟨finding.entry.id, finding.entry.group, finding.entry.criticality, severity⟩ finding.sub)
      .empty).1 = .ok issue ↔ locator.Reports index finding issue := by
  unfold Locator.issue
  have score : finding.sub.score.getD .zero = finding.score := rfl
  simp only [Option.orElse_eq_orElse, Option.orElse_eq_or, score]
  -- Without a pointer there is neither an answer nor a report.
  cases entry : index.get? finding.sub.pointer with
  | none =>
    constructor
    · intro answered
      cases answered
    · intro reports
      rw [reports.pointer] at entry
      cases entry
  | some pointer =>
    dsimp only
    rw [runFrom_bind_eq_ok]
    constructor
    · rintro ⟨location, tried, answered⟩
      obtain rfl := Except.ok.inj answered
      exact ⟨rfl, rfl, entry, hasPlace_iff.mpr ⟨location, tried, rfl, rfl, rfl⟩, rfl, known, rfl,
        rfl⟩
    · -- The fields of the report are those that are computed, so the issue is the computed one.
      intro reports
      obtain ⟨location, tried, file, line, span⟩ := hasPlace_iff.mp reports.place
      have samePointer : issue.pointer = pointer :=
        Option.some.inj (reports.pointer.symm.trans entry)
      have sameSeverity : issue.severity = severity :=
        Except.ok.inj (reports.severity.symm.trans known)
      rw [samePointer] at tried
      refine ⟨location, tried, ?_⟩
      rcases issue with ⟨_, _, _, _, _, _, _, _, _, _⟩
      obtain ⟨rfl, rfl, _, _, rfl, _, rfl, rfl⟩ := reports
      dsimp only at samePointer sameSeverity file line span
      subst samePointer sameSeverity file line span
      rfl

/-- A criticality has a severity if it is from one to five. -/
theorem exists_severity_iff {criticality : Int} :
    (∃ severity, Severity.ofCriticality criticality = .ok severity) ↔
      1 ≤ criticality ∧ criticality ≤ 5 := by
  unfold Severity.ofCriticality
  split_ifs <;> simp <;> omega

/-- The occurrences in a group are answered together, if its criticality is one. -/
theorem groupIssues_eq_ok {entry : GroupEntry} {issues : List Issue} :
    (runFrom (locator.groupIssues index entry.default entry.id entry.group) .empty).1 = .ok issues ↔
      (1 ≤ entry.criticality ∧ entry.criticality ≤ 5) ∧
        List.Forall₂ (locator.Reports index) entry.findings issues := by
  -- Each occurrence is answered in a session that is current, whichever ones were answered before
  -- it.
  have current := Session.current_empty locator.tree
  have single : ∀ context sub, Parallel (Session.BothCurrent locator.tree) False
      (locator.issue index context sub) (locator.issue index context sub) :=
    fun context sub => issue_parallel (Session.asks_current locator.tree) index context sub
  -- With a severity, the occurrences are answered one by one as issues of the group.
  have each : ∀ {severity}, Severity.ofCriticality entry.criticality = .ok severity →
      ((runFrom (entry.group.issues.mapM
          (locator.issue index ⟨entry.id, entry.group, entry.criticality, severity⟩)) .empty).1 =
          .ok issues ↔ List.Forall₂ (locator.Reports index) entry.findings issues) := by
    intro severity known
    rw [current.mapM_eq_ok (single _), GroupEntry.findings, List.forall₂_map_left_iff]
    have same : ∀ sub issue, (runFrom (locator.issue index
        ⟨entry.id, entry.group, entry.criticality, severity⟩ sub) .empty).1 = .ok issue ↔
        locator.Reports index ⟨entry, sub⟩ issue :=
      fun sub issue => @issue_eq_ok locator index ⟨entry, sub⟩ issue severity known
    simp only [same]
  unfold groupIssues
  rw [runFrom_bind_eq_ok, ← exists_severity_iff]
  simp only [runFrom_lift, entry.criticality_eq]
  constructor
  · rintro ⟨severity, known, answered⟩
    exact ⟨⟨severity, known⟩, (each known).mp answered⟩
  · rintro ⟨⟨severity, known⟩, reports⟩
    exact ⟨severity, known, (each known).mpr reports⟩

/-- The groups of the categories are those of the report. -/
theorem groups_of_categories (a : Assessment) :
    (a.categories.flatMap fun (_, category, default) =>
      category.issues.map fun (id, group) => (default, id, group)) =
      a.entries.map fun entry => (entry.default, entry.id, entry.group) := by
  -- Every category gives its groups with the criticality that belongs to it.
  have one : ∀ (name : String) (category : Option Category) (default : Int),
      ((category.toList.map fun category => (name, category, default)).flatMap
        fun (_, category, default) => category.issues.map fun (id, group) => (default, id, group)) =
        (entriesOf default category).map fun entry => (entry.default, entry.id, entry.group) := by
    intro name category default
    cases category <;> simp [entriesOf]
  simp only [Assessment.categories, Assessment.entries, List.flatMap_append, List.map_append, one]

/-- The occurrences in all groups are answered together, if all criticalities are such. -/
theorem reportIssues_eq_ok {assessment : Assessment} {reported : List Issue}
    (current : session.Current locator.tree) :
    (runFrom (locator.reportIssues assessment) session).1 = .ok reported ↔
      (∀ entry ∈ assessment.entries, 1 ≤ entry.criticality ∧ entry.criticality ≤ 5) ∧
        List.Forall₂ (locator.Reports assessment.index) assessment.findings reported := by
  -- What a group answers does not depend on the session, as long as that is current.
  have alike : ∀ entry : Int × String × IssueGroup,
      Parallel (Session.BothCurrent locator.tree) False
        (locator.groupIssues assessment.index entry.1 entry.2.1 entry.2.2)
        (locator.groupIssues assessment.index entry.1 entry.2.1 entry.2.2) := by
    rintro ⟨default, id, group⟩
    exact (Parallel.lift _).bind fun severity =>
      Parallel.mapM (issue_parallel (Session.asks_current _) _ _) _
  unfold reportIssues
  rw [runFrom_bind_eq_ok, groups_of_categories]
  simp only [runFrom_pure, Except.ok.injEq]
  simp only [current.mapM_eq_ok alike, List.forall₂_map_left_iff, groupIssues_eq_ok]
  -- The issues of the report are those of its groups, one group behind the other.
  unfold Assessment.findings
  induction assessment.entries generalizing reported with
  | nil => simp [eq_comm]
  | cons entry rest ih =>
    rw [List.flatMap_cons, forall₂_append_left_iff, List.forall_mem_cons]
    constructor
    · rintro ⟨lists, related, rfl⟩
      obtain ⟨issues, others, ⟨severe, here⟩, behind, rfl⟩ := List.forall₂_cons_left_iff.mp related
      obtain ⟨all, there⟩ := ih.mp ⟨others, behind, rfl⟩
      exact ⟨⟨severe, all⟩, issues, _, here, there, rfl⟩
    · rintro ⟨⟨severe, all⟩, issues, others, here, there, rfl⟩
      obtain ⟨lists, behind, rfl⟩ := ih.mpr ⟨all, there⟩
      exact ⟨issues :: lists, .cons ⟨severe, here⟩ behind, rfl⟩

/-- Reported issues have numbers as their scores. -/
theorem Reports.finite (reports : locator.Reports index finding issue) :
    ∃ x, issue.score = .finite x :=
  ⟨_, reports.score⟩

/-- An occurrence is reported as one issue only. -/
theorem reports_rightUnique : Relator.RightUnique (locator.Reports index) := by
  -- All fields but the place are told by the finding outright.
  intro finding one other first second
  have pointers : one.pointer = other.pointer :=
    Option.some.inj (first.pointer.symm.trans second.pointer)
  have severities : one.severity = other.severity :=
    Except.ok.inj (first.severity.symm.trans second.severity)
  -- Locating the pointer has one answer.
  obtain ⟨location, tried, file, line, span⟩ := hasPlace_iff.mp first.place
  obtain ⟨location', tried', file', line', span'⟩ := hasPlace_iff.mp second.place
  rw [pointers, tried', Except.ok.injEq] at tried
  subst tried
  rcases one with ⟨_, _, _, _, _, _, _, _, _, _⟩
  rcases other with ⟨_, _, _, _, _, _, _, _, _, _⟩
  obtain ⟨rfl, rfl, _, _, rfl, _, rfl, rfl⟩ := first
  obtain ⟨rfl, rfl, _, _, rfl, _, rfl, rfl⟩ := second
  dsimp only at pointers severities file line span file' line' span'
  subst pointers severities file line span file' line' span'
  rfl

/-- Sorting by rank is stable sorting by magnitude. -/
theorem stablySorted_reported {findings : List Finding} {reported : List Issue}
    (reports : List.Forall₂ (locator.Reports index) findings reported) :
    StablySorted (fun issue => issue.score.magnitude) reported
      (reported.mergeSort fun a b => b.score.magnitudeRank ≤ a.score.magnitudeRank) := by
  -- All scores are numbers, whose ranks are ordered like their magnitudes.
  have finite : ∀ issue ∈ reported, ∃ x, issue.score = .finite x := by
    intro issue member
    obtain ⟨position, within, rfl⟩ := List.getElem_of_mem member
    have length := reports.length_eq
    have here := reports.get (by omega) within
    exact here.finite
  refine stablySorted_mergeSort fun a first b second => ?_
  obtain ⟨x, scoreA⟩ := finite a first
  obtain ⟨y, scoreB⟩ := finite b second
  rw [scoreA, scoreB, decide_eq_decide]
  exact Binary64.magnitudeRank_le_iff

/-- In a session over files that did not change, a report is answered exactly if all its
criticalities are from one to five, all its keys have pointers, and no pointer fails but by leading
nowhere. The answer has one issue for each occurrence, which depends on nothing but the occurrence
with its group, the table of pointers and the bundle, and the issues are in the stable order of their
magnitudes. -/
theorem findings_are_reported_in_order (locator : Locator) (assessment : Assessment)
    {session : Session} (current : session.Current locator.tree) :
    (∀ pointer, (runFrom (locator.locate pointer) session).1 = locator.answer pointer) ∧
      Relator.RightUnique (locator.Reports assessment.index) ∧
      ∀ issues, (runFrom (locator.issues assessment) session).1 = .ok issues ↔
        (∀ entry ∈ assessment.entries, 1 ≤ entry.criticality ∧ entry.criticality ≤ 5) ∧
        ∃ reported, List.Forall₂ (locator.Reports assessment.index) assessment.findings reported ∧
          StablySorted (fun issue => issue.score.magnitude) reported issues := by
  refine ⟨fun pointer =>
    (current.answers (locate_parallel (Session.asks_current _) pointer)).1,
    reports_rightUnique, fun issues => ?_⟩
  unfold Locator.issues
  rw [runFrom_bind_eq_ok]
  constructor
  · rintro ⟨reported, answered, sorted⟩
    obtain ⟨severe, reports⟩ := (reportIssues_eq_ok current).mp answered
    cases sorted
    exact ⟨severe, reported, reports, stablySorted_reported reports⟩
  · -- There is one stable order of the issues, and sorting gives it.
    rintro ⟨severe, reported, reports, sorted⟩
    refine ⟨reported, (reportIssues_eq_ok current).mpr ⟨severe, reports⟩, ?_⟩
    rw [(stablySorted_reported reports).unique sorted]
    rfl

/-- A locator for a bundle of one file, a list of one number. -/
def oneFile : Locator where
  tree := .directory [("a.json", .file (some "[7]"))]
  root := ⟨["a.json"], .json, "[7]", .sequence [.scalar (.number (.int 7)) ⟨1, 2⟩] ⟨0, 3⟩,
    .array [.number (.int 7)], rfl, .ofText "[7]".toList⟩
  provenance := .empty

/-- A report of three occurrences in groups without a criticality, with a criticality of their own
and with zero. The last two have larger scores than the first one, and the last one has a pointer
that leads nowhere. -/
def threeFindings : Assessment where
  score := none
  openApiState := none
  index := .list ["/0", "/9"]
  data := some ⟨none, [("d", ⟨none, none, [⟨.position 0, none, some ⟨true, ⟨1, by decide⟩⟩⟩]⟩)]⟩
  security := some ⟨none,
    [("s", ⟨some "guard", some 3, [⟨.position 0, none, some ⟨false, ⟨2, by decide⟩⟩⟩]⟩)]⟩
  warnings := some ⟨none,
    [("w", ⟨some "advice", some 0, [⟨.name "1", none, some ⟨false, ⟨2, by decide⟩⟩⟩]⟩)]⟩
  semanticErrors := none
  validationErrors := none

/-- The first occurrence comes last, the other two stay in their order, and the last one is without a
line. -/
theorem larger_finding_comes_first : ∃ first second third : Issue,
    (runFrom (oneFile.issues threeFindings) .empty).1 = .ok [second, third, first] ∧
      (first.id, first.criticality, first.line) = ("d", 5, some 1) ∧
      (second.id, second.criticality, second.line) = ("s", 3, some 1) ∧
      (third.id, third.criticality, third.line) = ("w", 1, none) := by
  -- The three issues are written down in the order of the report; the theorem asks for that order
  -- and for the fields of each.
  obtain ⟨_, _, answers⟩ := findings_are_reported_in_order oneFile threeFindings
    (Session.current_empty _)
  let first : Issue := ⟨"d", "", "/0", "/a.json", some 1, some ⟨1, 2⟩, .critical, 5,
    .finite ⟨false, 1⟩, "less than 1"⟩
  let second : Issue := ⟨"s", "guard", "/0", "/a.json", some 1, some ⟨1, 2⟩, .medium, 3,
    .finite ⟨false, 2⟩, "less than 1"⟩
  let third : Issue := ⟨"w", "advice", "/9", "/a.json", none, none, .low, 1, .finite ⟨false, 2⟩,
    "less than 1"⟩
  have located : oneFile.answer (Pointer.parse "/0") = .ok ⟨["a.json"], 1, ⟨1, 2⟩⟩ := by
    decide +kernel
  have missing : oneFile.answer (Pointer.parse third.pointer) = .error (.notLocated "#/9") := by
    decide +kernel
  refine ⟨first, second, third,
    (answers _).mpr ⟨by decide, [first, second, third], ?_, ?_⟩, rfl, rfl, rfl⟩
  · refine .cons ?_ (.cons ?_ (.cons ?_ .nil))
    · exact ⟨rfl, rfl, rfl, .found located rfl rfl rfl, rfl, rfl, rfl, by decide +kernel⟩
    · exact ⟨rfl, rfl, rfl, .found located rfl rfl rfl, rfl, rfl, rfl, by decide +kernel⟩
    · exact ⟨rfl, rfl, rfl, .nowhere missing rfl rfl rfl rfl, rfl, rfl, rfl, by decide +kernel⟩
  · have smaller : first.score.magnitude < second.score.magnitude := by
      simp only [Binary64.magnitude]
      decide
    have equal : third.score.magnitude = second.score.magnitude := rfl
    refine ⟨by simpa [equal] using smaller.le, fun k => ?_⟩
    by_cases one : first.score.magnitude = k
    · have two : second.score.magnitude ≠ k := one ▸ smaller.ne'
      simp [one, two, equal]
    · simp [List.filter_cons, one, equal]

end Locator

end SpecTrace
