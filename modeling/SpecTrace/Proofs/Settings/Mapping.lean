import SpecTrace.Proofs.Members
import SpecTrace.Proofs.Outcome
import SpecTrace.Proofs.Path.Moved
import SpecTrace.Proofs.Text.Order
import SpecTrace.Settings.Settings

/-! The files that settings map to ids, and what was checked when the settings were read: each file was
found, each id is a UUID, and no id stands for two files. -/

namespace SpecTrace.Settings

/-! ### Sections -/

variable {tree : FileTree} {root : List PathName} {seen pairs mapping : List (String × String)}
  {file id text : String} {sections : Sections}

/-- A value that is not left out is read from a tree. -/
theorem Sections.optional?_eq_some {α : Type} {read : Markup.Tree → Option α}
    {entries : List (String × Markup.Tree)} {key : String} {value : α}
    (found : optional? read entries key = some (some value)) : ∃ tree, read tree = some value := by
  -- Two of the three branches leave the value out.
  unfold optional? at found
  split at found
  · cases found
  · rename_i tree _
    obtain ⟨leftOut, _, found⟩ := Option.bind_eq_some_iff.mp found
    split at found
    · cases found
    · obtain ⟨_, held, same⟩ := Option.map_eq_some_iff.mp found
      exact ⟨tree, held.trans same⟩

/-- Storing members one after the other repeats no key. -/
theorem nodup_foldl_insertMember {members : List (String × String)}
    (distinct : (members.map Prod.fst).Nodup) (pairs : List (String × String)) :
    ((pairs.foldl (fun members pair => insertMember members pair.1 pair.2) members).map
      Prod.fst).Nodup := by
  induction pairs generalizing members with
  | nil => exact distinct
  | cons pair rest ih => exact ih (insertMember_nodup distinct pair.1 pair.2)

/-- A mapping section that is read lists no file twice. -/
theorem Sections.nodup_of_mapping? {tree : Markup.Tree} {mapping : List (String × String)}
    (read : mapping? tree = some mapping) : (mapping.map Prod.fst).Nodup := by
  obtain ⟨_, _, read⟩ := Option.bind_eq_some_iff.mp read
  obtain ⟨pairs, _, read⟩ := Option.bind_eq_some_iff.mp read
  cases read
  exact @nodup_foldl_insertMember [] List.nodup_nil pairs

/-- The sections of a text map no file twice. -/
theorem Sections.nodup_of_ofText? (read : Sections.ofText? text = some sections) :
    (sections.mapping.map Prod.fst).Nodup := by
  -- The mapping is inside two other mappings, and no mapping that is read repeats a key.
  unfold Sections.ofText? at read
  dsimp only at read
  split at read
  · cases read
    exact List.nodup_nil
  · obtain ⟨_, _, read⟩ := Option.bind_eq_some_iff.mp read
    obtain ⟨entries, _, read⟩ := Option.bind_eq_some_iff.mp read
    split at read
    · obtain ⟨outer, held, read⟩ := Option.bind_eq_some_iff.mp read
      cases read
      cases outer with
      | none => exact List.nodup_nil
      | some inner =>
        obtain ⟨_, made⟩ := Sections.optional?_eq_some held
        obtain ⟨_, _, made⟩ := Option.bind_eq_some_iff.mp made
        obtain ⟨_, _, made⟩ := Option.bind_eq_some_iff.mp made
        -- The section of the mapping is inside of the one for the audit.
        obtain ⟨mapping, listed, made⟩ := Option.bind_eq_some_iff.mp made
        obtain ⟨_, _, made⟩ := Option.bind_eq_some_iff.mp made
        cases made
        cases mapping with
        | none => exact List.nodup_nil
        | some mapping =>
          obtain ⟨_, listed⟩ := Sections.optional?_eq_some listed
          exact Sections.nodup_of_mapping? listed
    · cases read

/-! ### Identifiers -/

/-- A hexadecimal digit, in lower or upper case. -/
def IsHexDigit (c : Char) : Prop :=
  ('0' ≤ c ∧ c ≤ '9') ∨ ('a' ≤ c ∧ c ≤ 'f') ∨ ('A' ≤ c ∧ c ≤ 'F')

/-- Whether a character is a hexadecimal digit can be computed. -/
instance (c : Char) : Decidable (IsHexDigit c) :=
  inferInstanceAs (Decidable (_ ∨ _))

/-- Hexadecimal digits, as many as are asked for. -/
def HexDigits (count : Nat) (group : List Char) : Prop :=
  group.length = count ∧ ∀ c ∈ group, IsHexDigit c

/-- A UUID as text: groups of eight, four, four, four and twelve hexadecimal digits with hyphens
between them. The third group begins with the version, one to five, and the fourth one with the
variant. -/
def IsUuid (text : String) : Prop :=
  ∃ time middle version variant node : List Char,
    text.toList = ['-'].intercalate [time, middle, version, variant, node] ∧
      HexDigits 8 time ∧ HexDigits 4 middle ∧ HexDigits 4 version ∧ HexDigits 4 variant ∧
      HexDigits 12 node ∧ (∃ c ∈ version.head?, c ∈ ['1', '2', '3', '4', '5']) ∧
      ∃ c ∈ variant.head?, c ∈ ['8', '9', 'a', 'b', 'A', 'B']

/-- A character is a hexadecimal digit exactly if it has a value as one. -/
theorem isSome_digitValue?_iff {c : Char} : (digitValue? 16 c).isSome = true ↔ IsHexDigit c := by
  -- The three ranges are tried in turn, and what is in none of them gets a value that is too large.
  unfold digitValue?
  by_cases decimal : '0' ≤ c ∧ c ≤ '9'
  · have high : c.toNat ≤ '0'.toNat + 9 := decimal.2
    rw [if_pos decimal, if_pos (by omega)]
    exact iff_of_true rfl (.inl decimal)
  · rw [if_neg decimal]
    by_cases lower : 'a' ≤ c ∧ c ≤ 'f'
    · have high : c.toNat ≤ 'a'.toNat + 5 := lower.2
      rw [if_pos lower, if_pos (by omega)]
      exact iff_of_true rfl (.inr (.inl lower))
    · rw [if_neg lower]
      by_cases upper : 'A' ≤ c ∧ c ≤ 'F'
      · have high : c.toNat ≤ 'A'.toNat + 5 := upper.2
        rw [if_pos upper, if_pos (by omega)]
        exact iff_of_true rfl (.inr (.inr upper))
      · rw [if_neg upper, if_neg (Nat.lt_irrefl 16)]
        exact iff_of_false Bool.false_ne_true (not_or.mpr ⟨decimal, not_or.mpr ⟨lower, upper⟩⟩)

/-- A group passes exactly if it has that many hexadecimal digits. -/
theorem isHexGroup_iff {count : Nat} {group : List Char} :
    isHexGroup count group = true ↔ HexDigits count group := by
  simp only [isHexGroup, HexDigits, Bool.and_eq_true, decide_eq_true_eq, List.all_eq_true,
    isSome_digitValue?_iff]

/-- An id passes exactly if it is a UUID. -/
theorem isId_iff {text : String} : isId text = true ↔ IsUuid text := by
  -- The text is split at its hyphens into five groups, and each group is tested by itself.
  constructor
  · intro valid
    unfold isId at valid
    split at valid
    · rename_i time middle version variant node parts
      simp only [Bool.and_eq_true, isHexGroup_iff, Option.any_eq_true, List.contains_iff_mem] at valid
      obtain ⟨⟨⟨⟨⟨⟨first, second⟩, third⟩, fourth⟩, fifth⟩, versioned⟩, varied⟩ := valid
      refine ⟨time, middle, version, variant, node, ?_, first, second, third, fourth, fifth,
        versioned, varied⟩
      rw [← parts, FilePath.intercalate_splitChars]
    · cases valid
  · rintro ⟨time, middle, version, variant, node, written, first, second, third, fourth, fifth,
      versioned, varied⟩
    -- No group has a hyphen, so the text is split into the groups again.
    have free : ∀ group ∈ [time, middle, version, variant, node], '-' ∉ group := by
      have digits : ∀ group ∈ [time, middle, version, variant, node], ∀ c ∈ group, IsHexDigit c := by
        simpa using ⟨first.2, second.2, third.2, fourth.2, fifth.2⟩
      exact fun group member hyphen => absurd (digits group member _ hyphen) (by decide)
    unfold isId
    rw [written, FilePath.splitChars_intercalate (List.cons_ne_nil _ _) free]
    simp only [Bool.and_eq_true, isHexGroup_iff, Option.any_eq_true, List.contains_iff_mem]
    exact ⟨⟨⟨⟨⟨⟨first, second⟩, third⟩, fourth⟩, fifth⟩, versioned⟩, varied⟩

/-- Whether a text is a UUID can be computed. -/
instance (text : String) : Decidable (IsUuid text) :=
  decidable_of_iff _ isId_iff

/-! ### Checked files -/

/-- A file with its id passes if the file is there, the id is well formed and it was not seen
before; then the others are checked. -/
theorem checkMapping_cons : checkMapping tree root seen ((file, id) :: pairs) = .ok () ↔
    tree.exists? (joinNames root file) = true ∧ isId id = true ∧
      lookupMember? seen (foldId id) = none ∧
      checkMapping tree root ((foldId id, file) :: seen) pairs = .ok () := by
  -- The three tests are made in this order, and the last is whether the folded id is known.
  rw [checkMapping]
  by_cases there : tree.exists? (joinNames root file) = true
  · by_cases valid : isId id = true
    · cases known : lookupMember? seen (foldId id) <;> simp [there, valid]
    · simp [there, valid]
  · simp [there]

/-- Files with their ids pass exactly if every file is there, every id is well formed, and no id is
repeated or was seen before, without regard to case. -/
theorem checkMapping_eq_ok_iff : checkMapping tree root seen pairs = .ok () ↔
    (∀ pair ∈ pairs, tree.exists? (joinNames root pair.1) = true ∧ isId pair.2 = true) ∧
      (pairs.map fun pair => foldId pair.2).Nodup ∧
      ∀ pair ∈ pairs, lookupMember? seen (foldId pair.2) = none := by
  -- By induction on the files, with every id among the seen ones once it was checked.
  induction pairs generalizing seen with
  | nil => simp [checkMapping]
  | cons pair rest ih =>
    obtain ⟨file, id⟩ := pair
    -- An id is new behind this file if it was new before and is not the id of the file.
    have unseen : ∀ other, lookupMember? ((foldId id, file) :: seen) other = none ↔
        other ≠ foldId id ∧ lookupMember? seen other = none := by
      intro other
      rw [lookupMember?_cons]
      by_cases same : foldId id = other
      · simp [same]
      · simp [same, Ne.symm same]
    rw [checkMapping_cons, ih]
    simp only [unseen, List.forall_mem_cons, List.map_cons, List.nodup_cons, List.mem_map, not_exists,
      not_and, forall_and]
    tauto

/-- A file that is stored is the new one or one of those before. -/
theorem mem_insertMapped {stored : String}
    (member : stored ∈ (insertMapped mapping file id).map Prod.fst) :
    stored = file ∨ stored ∈ mapping.map Prod.fst := by
  induction mapping with
  | nil => simpa [insertMapped] using member
  | cons entry rest ih =>
    obtain ⟨other, old⟩ := entry
    rw [insertMapped] at member
    split at member
    · simpa using member
    · exact .inr (by simpa using member)
    · -- The file is stored behind this one.
      rcases List.mem_cons.mp member with same | later
      · exact .inr (List.mem_cons.mpr (.inl same))
      · exact (ih later).imp_right fun behind => List.mem_cons_of_mem _ behind

/-- Files that are stored one by one are those that are given. -/
theorem mem_foldl_insertMapped {stored : String} (member : stored ∈
      (pairs.foldl (fun mapping pair => insertMapped mapping pair.1 pair.2) mapping).map Prod.fst) :
    stored ∈ mapping.map Prod.fst ∨ stored ∈ pairs.map Prod.fst := by
  -- By induction on the pairs, with the mapping general since each pair is stored into it.
  induction pairs generalizing mapping with
  | nil => exact .inl member
  | cons pair rest ih =>
    rw [List.map_cons, List.mem_cons]
    rcases ih member with before | later
    · rcases mem_insertMapped before with same | old
      · exact .inr (.inl same)
      · exact .inl old
    · exact .inr (.inr later)

/-- The mapping that sections make is checked, and then stored file by file. -/
theorem ofSections_eq_ok {sections : Sections} {settings : Settings}
    (made : ofSections tree root sections = .ok settings) :
    checkMapping tree root [] (sortByText Prod.fst sections.mapping) = .ok () ∧
      settings.mapping = (sortByText Prod.fst sections.mapping).foldl
        (fun mapping pair => insertMapped mapping pair.1 pair.2) [] := by
  -- A mapping that does not pass makes no settings, so it has passed.
  unfold ofSections at made
  dsimp only at made
  obtain ⟨_, checked, made⟩ := bind_eq_ok.mp made
  cases made
  exact ⟨checked, rfl⟩

/-- Sections make settings exactly if their mapping passes. -/
theorem exists_ofSections_iff {sections : Sections} :
    (∃ settings, ofSections tree root sections = .ok settings) ↔
      checkMapping tree root [] (sortByText Prod.fst sections.mapping) = .ok () := by
  -- Storing the files cannot fail, so only the check decides.
  constructor
  · rintro ⟨settings, made⟩
    exact (ofSections_eq_ok made).1
  · intro checked
    unfold ofSections
    dsimp only
    rw [checked]
    exact ⟨_, rfl⟩

/-- Settings that are loaded are the default ones, or they are made from sections. -/
theorem load_eq_ok {here : FilePath} {directory : String} {settings : Settings}
    (loaded : load tree here directory = .ok settings) :
    settings = default ∨
      ∃ sections, ofSections tree (here.join directory) sections = .ok settings := by
  unfold load at loaded
  dsimp only at loaded
  split at loaded
  · cases loaded
    exact .inl rfl
  · right
    obtain ⟨place, _, loaded⟩ := bind_eq_ok.mp loaded
    obtain ⟨text, _, loaded⟩ := bind_eq_ok.mp loaded
    have made := mapError_eq_ok.mp loaded
    -- A text that is read gives sections, any other one a fault.
    unfold ofText at made
    split at made
    · exact ⟨_, made⟩
    · cases made

/-- The files that settings map to ids are there, taken from the directory of the settings. -/
theorem exists_of_load {here : FilePath} {directory : String} {settings : Settings}
    (loaded : load tree here directory = .ok settings) :
    ∀ file ∈ settings.mapping.map Prod.fst,
      tree.exists? (joinNames (here.join directory) file) = true := by
  -- Every file of the settings was stored, so it is one of the sections, and those have been
  -- checked.
  intro file member
  rcases load_eq_ok loaded with rfl | ⟨sections, made⟩
  · cases member
  · obtain ⟨checked, stored⟩ := ofSections_eq_ok made
    rw [stored] at member
    rcases mem_foldl_insertMapped member with none | given
    · cases none
    · obtain ⟨pair, listed, rfl⟩ := List.mem_map.mp given
      exact ((checkMapping_eq_ok_iff.mp checked).1 pair listed).1

end SpecTrace.Settings
