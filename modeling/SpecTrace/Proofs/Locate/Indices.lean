import Mathlib.Data.List.Forall2
import Mathlib.Data.List.Induction
import SpecTrace.Locate.Sarif
import SpecTrace.Proofs.Reference.Files

/-! The numbers in a log of issues: every result leads to the rule of its id and to the artifact of
its file, of which there is one each, in the order in which the issues name them first. -/

namespace SpecTrace

/-! ### URIs of files -/

namespace Url

/-- How a component is spelled in the URL of a file. -/
def spelling (name : PathComponent) : List Char :=
  Percent.encode isEncodedInSegment name.text.toList

/-- The component that a part of the URL of a file spells, if it spells one. -/
def component? (part : List Char) : Option PathComponent :=
  innerComponent? (Utf8.lossyText (Percent.decode part))

/-- The component that is spelled is the one that was written. -/
theorem component?_spelling {name : PathComponent} (stands : innerComponent? name.text = some name) :
    component? (spelling name) = some name := by
  -- Decoding undoes the encoding byte by byte, and the bytes are those of the text.
  have bytes : Percent.decode (spelling name) = Utf8.encode name.text.toList := by
    have whole := @Percent.decode_encode isEncodedInSegment rfl name.text.toList []
    simpa [spelling, Percent.decode] using whole
  have text : Utf8.lossyText (Utf8.encode name.text.toList) = name.text := by
    simp [Utf8.lossyText, Utf8.decode_encode, Function.comp_def]
  rw [component?, bytes, text, stands]

/-- The URL of a file spells the components behind the root one by one, and a slash stands alone if
there are none. -/
theorem ofFile?_of_root {path : String} {names : List PathComponent}
    (split : pathComponents path = .root :: names) :
    ofFile? path = some (if names.isEmpty then ['/'] else
      names.flatMap fun name => '/' :: spelling name) := by
  rw [ofFile?, split]
  rfl

/-- What an absolute path has behind the root can be told from the URL of its file. -/
theorem names_of_ofFile? {path : String} {names : List PathComponent} {chars : List Char}
    (absolute : isAbsolutePath path = true) (split : pathComponents path = .root :: names)
    (spelled : ofFile? path = some chars) : names = (splitChars '/' chars).filterMap component? := by
  -- The components of a path are read from its parts, so each is read back from its text.
  have stands : ∀ name ∈ names, innerComponent? name.text = some name := by
    intro name member
    rw [pathComponents_of_absolute absolute] at split
    cases split
    obtain ⟨part, _, stands⟩ := List.mem_filterMap.mp member
    rwa [text_of_innerComponent? stands]
  rw [ofFile?_of_root split, Option.some.injEq] at spelled
  subst spelled
  -- In front of the first slash, and behind one that stands alone, there is no component.
  have nothing : component? [] = none := by decide
  cases names with
  | nil =>
    have parts : splitChars '/' ['/'] = [[], []] := by decide
    rw [List.isEmpty_nil, if_pos rfl, parts, List.filterMap_cons_none nothing,
      List.filterMap_cons_none nothing, List.filterMap_nil]
  | cons first rest =>
    have parts : splitChars '/' ((first :: rest).flatMap fun name => '/' :: spelling name) =
        [] :: (first :: rest).map spelling := by
      have free : ∀ part ∈ (first :: rest).map spelling, '/' ∉ part := by
        intro part member
        obtain ⟨name, _, rfl⟩ := List.mem_map.mp member
        exact Percent.slash_not_mem_encode rfl _
      rw [← splitChars_flatMap List.not_mem_nil free, List.flatMap_map, List.nil_append]
    -- Every part is spelled in a way that is read back.
    have each : ∀ name ∈ first :: rest, (component? ∘ spelling) name = some name := by
      intro name member
      rw [Function.comp_apply, component?_spelling (stands name member)]
    rw [List.isEmpty_cons, if_neg Bool.false_ne_true, parts, List.filterMap_cons_none nothing,
      List.filterMap_map, List.filterMap_congr each, List.filterMap_some]

end Url

namespace Sarif

/-- Absolute paths have the same URI exactly if they are the same path, component by component. -/
theorem fileUri_eq_iff {path other : String} (absolute : isAbsolutePath path = true)
    (otherAbsolute : isAbsolutePath other = true) :
    fileUri path = fileUri other ↔ pathComponents path = pathComponents other := by
  have split := pathComponents_of_absolute absolute
  have otherSplit := pathComponents_of_absolute otherAbsolute
  -- An absolute path has a URI, which is that of its components.
  have uri : ∀ {path : String} {names : List PathComponent},
      pathComponents path = .root :: names → ∃ chars,
        Url.ofFile? path = some chars ∧ fileUri path = "file://" ++ String.ofList chars := by
    intro path names split
    have spelled := Url.ofFile?_of_root split
    exact ⟨_, spelled, by rw [fileUri, spelled]⟩
  obtain ⟨chars, spelled, whole⟩ := uri split
  obtain ⟨otherChars, otherSpelled, otherWhole⟩ := uri otherSplit
  constructor
  · intro same
    rw [whole, otherWhole] at same
    have sameChars : chars = otherChars := by simpa using congrArg String.toList same
    rw [split, otherSplit, Url.names_of_ofFile? absolute split spelled,
      Url.names_of_ofFile? otherAbsolute otherSplit otherSpelled, sameChars]
  · intro same
    have equal : Url.ofFile? path = Url.ofFile? other := by rw [Url.ofFile?, Url.ofFile?, same]
    rw [spelled, otherSpelled, Option.some.injEq] at equal
    rw [whole, otherWhole, equal]

/-! ### Tables that grow -/

section Tables

variable {α β γ : Type} [DecidableEq β] [BEq γ] [LawfulBEq γ] {key : α → β} {wanted : α} {list : List α}

/-- A table only grows at its end, by an element whose key is not in it. -/
theorem indexIn_snd : (indexIn key wanted list).2 =
    if key wanted ∈ list.map key then list else list ++ [wanted] := by
  -- The search fails exactly if the key is new.
  have known : (list.findIdx? fun element => decide (key element = key wanted)) = none ↔
      key wanted ∉ list.map key := by
    simp [List.findIdx?_eq_none_iff]
  unfold indexIn
  split
  · rename_i index found
    have member : key wanted ∈ list.map key := by
      by_contra missing
      rw [known.mpr missing] at found
      cases found
    rw [if_pos member]
  · rename_i missing
    rw [if_neg (known.mp missing)]

/-- A table begins with what it was. -/
theorem prefix_indexIn : list <+: (indexIn key wanted list).2 := by
  rw [indexIn_snd]
  split
  · exact List.prefix_rfl
  · exact List.prefix_append _ _

/-- What a table has when it has grown, it had before, or it is the wanted element. -/
theorem mem_indexIn {element : α} (member : element ∈ (indexIn key wanted list).2) :
    element ∈ list ∨ element = wanted := by
  rw [indexIn_snd] at member
  split at member
  · exact .inl member
  · exact (List.mem_append.mp member).imp id List.mem_singleton.mp

/-- The index that is given out is that of an element with the wanted key. -/
theorem indexIn_fst : ∃ found, (indexIn key wanted list).2[(indexIn key wanted list).1]? = some found ∧
    key found = key wanted := by
  -- An index that is found is one of the list, and otherwise the element is put behind the last
  -- one.
  unfold indexIn
  split
  · rename_i index known
    obtain ⟨within, same, _⟩ := List.findIdx?_eq_some_iff_getElem.mp known
    exact ⟨list[index], List.getElem?_eq_getElem within, of_decide_eq_true same⟩
  · exact ⟨wanted, by simp, rfl⟩

/-- Only a value that is new makes the list of distinct values longer. -/
theorem eraseDups_concat (values : List γ) (value : γ) : (values ++ [value]).eraseDups =
    if value ∈ values then values.eraseDups else values.eraseDups ++ [value] := by
  rw [List.eraseDups_append]
  -- The last value is erased exactly if it stands before.
  by_cases member : value ∈ values
  · simp [List.removeAll, member]
  · simp [List.removeAll, member, List.eraseDups_cons]

/-- A table of elements by one key also has the distinct values of another one, if both tell the
wanted element apart from the same elements. -/
theorem map_indexIn {other : α → γ} {values : List γ} (distinct : list.map other = values.eraseDups)
    (alike : ∀ element ∈ list, key element = key wanted ↔ other element = other wanted) :
    (indexIn key wanted list).2.map other = (values ++ [other wanted]).eraseDups := by
  -- The element is in the table by one key exactly if it is there by the other one.
  have same : key wanted ∈ list.map key ↔ other wanted ∈ values := by
    rw [← List.mem_eraseDups (l := values), ← distinct, List.mem_map, List.mem_map]
    exact exists_congr fun element => and_congr_right (alike element)
  rw [indexIn_snd, eraseDups_concat, ← distinct]
  by_cases member : other wanted ∈ values
  · rw [if_pos (same.mpr member), if_pos member]
  · rw [if_neg (same.not.mpr member), if_neg member, List.map_append, List.map_singleton]

end Tables

/-! ### Logs that grow -/

/-- A result reports an issue: it says what the issue says, and its indices in the log are those of
the rule of its id and of the artifact of its file. -/
structure Reports (log : Log) (issue : Issue) (result : Result) : Prop where
  ruleId : result.ruleId = issue.id
  level : result.level = level issue.criticality
  message : result.message = issue.description
  line : result.line = issue.line
  uri : result.uri = fileUri issue.file
  rule : ∃ rule, log.rules[result.ruleIndex]? = some rule ∧ rule.id = result.ruleId
  artifact : ∃ artifact, log.artifacts[result.artifactIndex]? = some artifact ∧
    artifact.file = pathComponents issue.file ∧ artifact.uri = result.uri

/-- What a table has at an index it has there when it has grown. -/
theorem getElem?_of_prefix {α : Type} {list grown : List α} (begins : list <+: grown) {i : Nat}
    {element : α} (there : list[i]? = some element) : grown[i]? = some element := by
  obtain ⟨within, rfl⟩ := List.getElem?_eq_some_iff.mp there
  exact List.prefix_iff_getElem?.mp begins i within

/-- A result keeps reporting its issue when the tables grow. -/
theorem Reports.mono {log later : Log} {issue : Issue} {result : Result}
    (reports : Reports log issue result) (rules : log.rules <+: later.rules)
    (artifacts : log.artifacts <+: later.artifacts) : Reports later issue result where
  ruleId := reports.ruleId
  level := reports.level
  message := reports.message
  line := reports.line
  uri := reports.uri
  -- The indices are looked up in tables, and a longer table has the same elements in front.
  rule := by
    obtain ⟨rule, there, same⟩ := reports.rule
    exact ⟨rule, getElem?_of_prefix rules there, same⟩
  artifact := by
    obtain ⟨artifact, there, same⟩ := reports.artifact
    exact ⟨artifact, getElem?_of_prefix artifacts there, same⟩

/-- A log has one rule for each id, one artifact for each file and one result for each of some
issues, each in the order of the issues. -/
structure Indexes (issues : List Issue) (log : Log) : Prop where
  results : List.Forall₂ (Reports log) issues log.results
  rules : log.rules.map Rule.id = (issues.map Issue.id).eraseDups
  files : log.artifacts.map Artifact.file =
    (issues.map fun issue => pathComponents issue.file).eraseDups
  uris : log.artifacts.map Artifact.uri = (issues.map fun issue => fileUri issue.file).eraseDups
  artifacts : ∀ artifact ∈ log.artifacts,
    ∃ issue ∈ issues, artifact = ⟨pathComponents issue.file, fileUri issue.file⟩

/-- The log without issues has nothing. -/
theorem indexes_nil : Indexes [] ⟨[], [], []⟩ :=
  ⟨.nil, rfl, rfl, rfl, by simp⟩

/-- The artifacts of a log with one more issue are those of the issues and of this one. -/
theorem Indexes.artifacts_add {issues : List Issue} {log : Log} (indexes : Indexes issues log)
    (issue : Issue) : ∀ artifact ∈ (log.add issue).artifacts, ∃ other ∈ issues ++ [issue],
      artifact = ⟨pathComponents other.file, fileUri other.file⟩ := by
  -- The artifact was in the table before, or it is the one of this issue.
  intro artifact member
  rcases mem_indexIn member with old | rfl
  · obtain ⟨other, listed, same⟩ := indexes.artifacts artifact old
    exact ⟨other, List.mem_append_left _ listed, same⟩
  · exact ⟨issue, List.mem_append_right _ (List.mem_singleton_self _), rfl⟩

/-- A log gets one more result, which reports the new issue by what is found in the grown tables. -/
theorem reports_add {log : Log} {issue : Issue} (absolute : isAbsolutePath issue.file = true)
    (artifacts : ∀ artifact ∈ (log.add issue).artifacts, ∃ other : Issue,
      isAbsolutePath other.file = true ∧
        artifact = ⟨pathComponents other.file, fileUri other.file⟩) :
    ∃ result, (log.add issue).results = log.results ++ [result] ∧
      Reports (log.add issue) issue result := by
  obtain ⟨rule, ruleThere, sameId⟩ :=
    @indexIn_fst _ _ _ Rule.id ⟨issue.id, issue.description⟩ log.rules
  obtain ⟨artifact, there, sameFile⟩ :=
    @indexIn_fst _ _ _ Artifact.file ⟨pathComponents issue.file, fileUri issue.file⟩ log.artifacts
  -- The artifact was found by its file, and that is the file of the URI.
  have sameUri : artifact.uri = fileUri issue.file := by
    obtain ⟨other, otherAbsolute, rfl⟩ := artifacts artifact (List.mem_of_getElem? there)
    exact (fileUri_eq_iff otherAbsolute absolute).mpr sameFile
  exact ⟨_, rfl, rfl, rfl, rfl, rfl, rfl, ⟨rule, ruleThere, sameId⟩,
    artifact, there, sameFile, sameUri⟩

/-- A log with one more issue has its result behind the others, and at most one new rule and one
new artifact. -/
theorem Indexes.add {issues : List Issue} {log : Log} {issue : Issue} (indexes : Indexes issues log)
    (absolute : ∀ other ∈ issues ++ [issue], isAbsolutePath other.file = true) :
    Indexes (issues ++ [issue]) (log.add issue) := by
  obtain ⟨others, this⟩ := List.forall_mem_append.mp absolute
  have here := this issue (List.mem_singleton_self _)
  -- The files in the log are told apart by their URIs as well.
  have alike : ∀ known ∈ log.artifacts,
      known.file = pathComponents issue.file ↔ known.uri = fileUri issue.file := by
    intro known member
    obtain ⟨other, listed, rfl⟩ := indexes.artifacts known member
    exact (fileUri_eq_iff (others other listed) here).symm
  -- Both tables only grow, so what was reported before is still reported.
  have artifacts := indexes.artifacts_add issue
  obtain ⟨result, grown, reports⟩ := reports_add here fun artifact member => by
    obtain ⟨other, listed, same⟩ := artifacts artifact member
    exact ⟨other, absolute other listed, same⟩
  refine ⟨?_, ?_, ?_, ?_, artifacts⟩
  · have kept : List.Forall₂ (Reports (log.add issue)) issues log.results :=
      indexes.results.imp fun _ _ old => old.mono prefix_indexIn prefix_indexIn
    rw [grown]
    exact List.rel_append kept (.cons reports .nil)
  · rw [List.map_append, List.map_singleton]
    exact map_indexIn indexes.rules fun _ _ => Iff.rfl
  · rw [List.map_append, List.map_singleton]
    exact map_indexIn indexes.files fun _ _ => Iff.rfl
  · rw [List.map_append, List.map_singleton]
    exact map_indexIn indexes.uris alike

/-- The log of issues of absolute files indexes them. -/
theorem indexes_ofIssues {issues : List Issue}
    (absolute : ∀ issue ∈ issues, isAbsolutePath issue.file = true) :
    Indexes issues (ofIssues issues) := by
  -- The log grows by one issue at a time.
  induction issues using List.reverseRecOn with
  | nil => exact indexes_nil
  | append_singleton issues issue ih =>
    rw [ofIssues, List.foldl_concat, ← ofIssues]
    exact (ih (List.forall_mem_append.mp absolute).1).add absolute

/-- Of issues of absolute files, a log has one result each in the same order. The rules are the
distinct ids of the issues and the artifacts their distinct files, each in the order in which it
comes first. The indices of a result are those of the rule of its id and of the artifact of its file
and URI. -/
theorem indices_are_consistent {issues : List Issue}
    (absolute : ∀ issue ∈ issues, isAbsolutePath issue.file = true) :
    List.Forall₂ (Reports (ofIssues issues)) issues (ofIssues issues).results ∧
      (ofIssues issues).rules.map Rule.id = (issues.map Issue.id).eraseDups ∧
      (ofIssues issues).artifacts.map Artifact.file =
        (issues.map fun issue => pathComponents issue.file).eraseDups ∧
      (ofIssues issues).artifacts.map Artifact.uri =
        (issues.map fun issue => fileUri issue.file).eraseDups := by
  obtain ⟨results, rules, files, uris, _⟩ := indexes_ofIssues absolute
  exact ⟨results, rules, files, uris⟩

/-- A finding of an id in a file. -/
def finding (id file : String) (line : Option Nat) : Issue where
  id
  description := id ++ " found"
  pointer := "#/paths"
  file
  line
  span := none
  severity := .low
  criticality := 1
  score := .finite .zero
  displayScore := "0"

/-- Findings that repeat an id and a file. -/
def findings : List Issue :=
  [finding "a" "/api/a b.yaml" (some 3), finding "b" "/api/b.yaml" (some 7),
    finding "a" "/api/b.yaml" none]

/-- The last finding has the rule of the first one and the artifact of the second one. -/
theorem repeated_findings_share_indices :
    (∀ issue ∈ findings, isAbsolutePath issue.file = true) ∧
      (ofIssues findings).results.map (fun result => (result.ruleIndex, result.artifactIndex)) =
        [(0, 0), (1, 1), (0, 1)] ∧
      (ofIssues findings).rules.map Rule.id = ["a", "b"] ∧
      (ofIssues findings).artifacts.map Artifact.uri =
        ["file:///api/a%20b.yaml", "file:///api/b.yaml"] ∧
      List.Forall₂ (Reports (ofIssues findings)) findings (ofIssues findings).results := by
  have absolute : ∀ issue ∈ findings, isAbsolutePath issue.file = true := by decide
  obtain ⟨reports, rules, _, uris⟩ := indices_are_consistent absolute
  exact ⟨absolute, by decide, rules.trans (by decide), uris.trans (by decide), reports⟩

end Sarif

end SpecTrace
