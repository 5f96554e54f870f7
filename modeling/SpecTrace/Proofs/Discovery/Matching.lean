import SpecTrace.Discovery.Matching
import Mathlib.Data.List.Basic

/-! What glob patterns match, said part by part: the matcher finds a way to cut the path exactly if
there is one. -/

namespace SpecTrace

/-- What is left behind the bytes of a name is an end of them, with no slash before it. -/
theorem mem_withinName {bytes rest : List UInt8} :
    rest ∈ withinName bytes ↔ ∃ front, bytes = front ++ rest ∧ slash ∉ front := by
  -- By induction on the bytes. A name ends here, or it takes the next byte and ends further behind.
  induction bytes with
  | nil =>
    rw [withinName, List.mem_singleton]
    constructor
    · rintro rfl
      exact ⟨[], rfl, List.not_mem_nil⟩
    · rintro ⟨front, split, _⟩
      exact (List.append_eq_nil_iff.mp split.symm).2
  | cons b bytes ih =>
    rw [withinName]
    split
    · rename_i isSlash
      rw [List.mem_singleton]
      constructor
      · rintro rfl
        exact ⟨[], rfl, List.not_mem_nil⟩
      · rintro ⟨front, split, plain⟩
        -- A name ends before the slash.
        cases front with
        | nil => exact split.symm
        | cons first front =>
          obtain ⟨rfl, _⟩ := List.cons.inj split
          rw [isSlash] at plain
          exact absurd List.mem_cons_self plain
    · rename_i noSlash
      rw [List.mem_cons]
      constructor
      · rintro (rfl | later)
        · exact ⟨[], rfl, List.not_mem_nil⟩
        · obtain ⟨front, rfl, plain⟩ := ih.mp later
          refine ⟨b :: front, rfl, ?_⟩
          rw [List.mem_cons]
          rintro (same | inside)
          · exact noSlash same.symm
          · exact plain inside
      · rintro ⟨front, split, plain⟩
        cases front with
        | nil => exact .inl split.symm
        | cons first front =>
          obtain ⟨rfl, behind⟩ := List.cons.inj split
          exact .inr (ih.mpr ⟨front, behind, fun inside => plain (List.mem_cons_of_mem _ inside)⟩)

/-- What follows a slash is what stands behind one. -/
theorem mem_afterSlashes {bytes rest : List UInt8} :
    rest ∈ afterSlashes bytes ↔ ∃ front, bytes = front ++ slash :: rest := by
  -- By induction on the bytes. The slash is the next byte, or it stands further behind.
  induction bytes with
  | nil => simp [afterSlashes]
  | cons b bytes ih =>
    -- A slash further behind does not depend on the first byte.
    have later : (∃ front, bytes = front ++ slash :: rest) ↔
        ∃ front, b :: bytes = (b :: front) ++ slash :: rest := by
      simp
    rw [afterSlashes]
    split
    · rename_i isSlash
      rw [List.mem_cons, ih, later]
      constructor
      · rintro (rfl | ⟨front, split⟩)
        · exact ⟨[], by rw [isSlash, List.nil_append]⟩
        · exact ⟨b :: front, split⟩
      · rintro ⟨front, split⟩
        cases front with
        | nil => exact .inl (List.cons.inj split).2.symm
        | cons first front =>
          obtain ⟨rfl, _⟩ := List.cons.inj split
          exact .inr ⟨front, split⟩
    · rename_i noSlash
      rw [ih, later]
      constructor
      · rintro ⟨front, split⟩
        exact ⟨b :: front, split⟩
      · rintro ⟨front, split⟩
        cases front with
        | nil => exact absurd (List.cons.inj split).1 noSlash
        | cons first front =>
          obtain ⟨rfl, _⟩ := List.cons.inj split
          exact ⟨front, split⟩

/-- The ends of a list are what is left behind a beginning. -/
theorem mem_endsOf {α : Type} {items rest : List α} :
    rest ∈ endsOf items ↔ ∃ front, items = front ++ rest := by
  -- By induction on the list: its ends are itself and the ends of its tail.
  induction items with
  | nil => simp [endsOf, eq_comm]
  | cons item items ih =>
    rw [endsOf, List.mem_cons, ih]
    constructor
    · rintro (rfl | ⟨front, rfl⟩)
      · exact ⟨[], rfl⟩
      · exact ⟨item :: front, rfl⟩
    · rintro ⟨front, split⟩
      cases front with
      | nil => exact .inl split.symm
      | cons first front => exact .inr ⟨front, (List.cons.inj split).2⟩

/-- A beginning is dropped exactly where the bytes have it. -/
theorem dropBeginning?_eq_some_iff {beginning bytes rest : List UInt8} :
    dropBeginning? beginning bytes = some rest ↔ bytes = beginning ++ rest := by
  -- By induction on the beginning, with the bytes general since each step drops one.
  induction beginning generalizing bytes with
  | nil => simp [dropBeginning?]
  | cons a beginning ih =>
    cases bytes with
    | nil => simp [dropBeginning?]
    | cons b bytes =>
      rw [dropBeginning?, List.cons_append, List.cons.injEq]
      split
      · rename_i same
        rw [ih, same]
        exact (and_iff_right rfl).symm
      · rename_i differ
        simp [Ne.symm differ]

namespace GlobPart

mutual

/-- What a part of a pattern matches: only parts for directories match slashes. -/
inductive Matches : GlobPart → List UInt8 → Prop
  | literal (c : Char) : Matches (.literal c) (Utf8.encode [c])
  | anyByte {b : UInt8} (plain : b ≠ slash) : Matches .anyByte [b]
  | anyName {name : List UInt8} (plain : slash ∉ name) : Matches .anyName name
  | noDirectory : Matches .leadingDirs []
  | leadingDirs (directories : List UInt8) : Matches .leadingDirs (directories ++ [slash])
  | trailingDirs (behind : List UInt8) : Matches .trailingDirs (slash :: behind)
  | oneSlash : Matches .innerDirs [slash]
  | innerDirs (directories : List UInt8) : Matches .innerDirs (slash :: (directories ++ [slash]))
  | byteClass {negated : Bool} {ranges : List (Char × Char)} {b : UInt8}
      (inside : inByteRanges ranges b ≠ negated) : Matches (.byteClass negated ranges) [b]
  | noAlternative : Matches (.alternatives []) []
  | alternative {choices : List (List GlobPart)} {choice : List GlobPart} {bytes : List UInt8}
      (member : choice ∈ choices) (whole : AllMatch choice bytes) :
      Matches (.alternatives choices) bytes

/-- What parts match one behind the other. -/
inductive AllMatch : List GlobPart → List UInt8 → Prop
  | nil : AllMatch [] []
  | cons {part : GlobPart} {parts : List GlobPart} {front back : List UInt8}
      (first : Matches part front) (rest : AllMatch parts back) :
      AllMatch (part :: parts) (front ++ back)

end

/-- The bytes begin with some that fit, and what is left is accepted. -/
def Cuts (fits : List UInt8 → Prop) (accept : List UInt8 → Bool) (bytes : List UInt8) : Prop :=
  ∃ front back, bytes = front ++ back ∧ fits front ∧ accept back = true

variable {accept : List UInt8 → Bool} {bytes : List UInt8}

/-- The bytes can be cut behind any of the beginnings that fit. -/
theorem Cuts.intro {fits : List UInt8 → Prop} {front back : List UInt8} (fit : fits front)
    (accepted : accept back = true) : Cuts fits accept (front ++ back) :=
  ⟨front, back, rfl, fit, accepted⟩

/-- A character takes its own bytes. -/
theorem cuts_literal {c : Char} :
    Cuts (Matches (.literal c)) accept bytes ↔
      ∃ rest, bytes = Utf8.encode [c] ++ rest ∧ accept rest = true := by
  -- A literal matches its own bytes only, so the cut is where they end.
  constructor
  · rintro ⟨front, back, rfl, fit, accepted⟩
    cases fit
    exact ⟨back, rfl, accepted⟩
  · rintro ⟨rest, rfl, accepted⟩
    exact Cuts.intro (Matches.literal c) accepted

/-- A part that stands for one byte takes the first one. -/
theorem cuts_byte {fits : List UInt8 → Prop} {admits : UInt8 → Prop}
    (one : ∀ front, fits front ↔ ∃ b, front = [b] ∧ admits b) :
    Cuts fits accept bytes ↔ ∃ b rest, bytes = b :: rest ∧ admits b ∧ accept rest = true := by
  -- The front of the cut is that one byte.
  constructor
  · rintro ⟨front, back, rfl, fit, accepted⟩
    obtain ⟨b, rfl, admitted⟩ := (one front).mp fit
    exact ⟨b, back, rfl, admitted, accepted⟩
  · rintro ⟨b, rest, rfl, admitted, accepted⟩
    exact ⟨[b], rest, rfl, (one [b]).mpr ⟨b, rfl, admitted⟩, accepted⟩

/-- A question mark takes any byte but a slash. -/
theorem cuts_anyByte :
    Cuts (Matches .anyByte) accept bytes ↔
      ∃ b rest, bytes = b :: rest ∧ b ≠ slash ∧ accept rest = true := by
  -- One byte is taken, and only a slash is refused.
  refine cuts_byte fun front => ⟨fun fit => ?_, ?_⟩
  · cases fit with
    | anyByte plain => exact ⟨_, rfl, plain⟩
  · rintro ⟨b, rfl, plain⟩
    exact .anyByte plain

/-- A class takes a byte of its ranges, or one of no range if it is negated. -/
theorem cuts_byteClass {negated : Bool} {ranges : List (Char × Char)} :
    Cuts (Matches (.byteClass negated ranges)) accept bytes ↔
      ∃ b rest, bytes = b :: rest ∧ inByteRanges ranges b ≠ negated ∧ accept rest = true := by
  -- One byte is taken, and it has to be inside the class.
  refine cuts_byte fun front => ⟨fun fit => ?_, ?_⟩
  · cases fit with
    | byteClass inside => exact ⟨_, rfl, inside⟩
  · rintro ⟨b, rfl, inside⟩
    exact .byteClass inside

/-- A name may end anywhere up to the next slash. -/
theorem cuts_anyName :
    Cuts (Matches .anyName) accept bytes ↔ ∃ rest ∈ withinName bytes, accept rest = true := by
  -- Where a name may end is computed as the rests within the name.
  constructor
  · rintro ⟨front, back, rfl, fit, accepted⟩
    cases fit with
    | anyName plain => exact ⟨back, mem_withinName.mpr ⟨front, rfl, plain⟩, accepted⟩
  · rintro ⟨rest, behind, accepted⟩
    obtain ⟨name, rfl, plain⟩ := mem_withinName.mp behind
    exact Cuts.intro (Matches.anyName plain) accepted

/-- Directories in front end with a slash, or there are none. -/
theorem cuts_leadingDirs :
    Cuts (Matches .leadingDirs) accept bytes ↔
      accept bytes = true ∨ ∃ rest ∈ afterSlashes bytes, accept rest = true := by
  -- The two ways to match are that there is no directory and that the front ends with a slash.
  constructor
  · rintro ⟨front, back, rfl, fit, accepted⟩
    cases fit with
    | noDirectory => exact .inl accepted
    | leadingDirs directories => exact .inr ⟨back, mem_afterSlashes.mpr ⟨directories, by simp⟩, accepted⟩
  · rintro (accepted | ⟨rest, behind, accepted⟩)
    · exact Cuts.intro Matches.noDirectory accepted
    · obtain ⟨directories, rfl⟩ := mem_afterSlashes.mp behind
      have cut := Cuts.intro (Matches.leadingDirs directories) accepted
      rwa [List.append_assoc, List.singleton_append] at cut

/-- Behind its slash, what stands for inner directories is what stands for directories in front. -/
theorem cuts_innerDirs :
    Cuts (Matches .innerDirs) accept bytes ↔
      ∃ behind, bytes = slash :: behind ∧ Cuts (Matches .leadingDirs) accept behind := by
  -- The two ways to match a pair of slashes are those of directories in front, behind the first
  -- slash.
  constructor
  · rintro ⟨front, back, rfl, fit, accepted⟩
    cases fit with
    | oneSlash => exact ⟨back, rfl, Cuts.intro Matches.noDirectory accepted⟩
    | innerDirs directories =>
      exact ⟨_, rfl, Cuts.intro (Matches.leadingDirs directories) accepted⟩
  · rintro ⟨_, rfl, front, back, rfl, fit, accepted⟩
    cases fit with
    | noDirectory => exact Cuts.intro Matches.oneSlash accepted
    | leadingDirs directories => exact Cuts.intro (Matches.innerDirs directories) accepted

/-- Behind a slash, what stands for everything may end anywhere. -/
theorem cuts_trailingDirs :
    Cuts (Matches .trailingDirs) accept bytes ↔
      ∃ behind, bytes = slash :: behind ∧ ∃ rest ∈ endsOf behind, accept rest = true := by
  -- Behind the slash, anything that is left is an end of the bytes.
  constructor
  · rintro ⟨front, back, rfl, fit, accepted⟩
    cases fit with
    | trailingDirs behind =>
      exact ⟨behind ++ back, rfl, back, mem_endsOf.mpr ⟨behind, rfl⟩, accepted⟩
  · rintro ⟨_, rfl, rest, ends, accepted⟩
    obtain ⟨behind, rfl⟩ := mem_endsOf.mp ends
    exact Cuts.intro (Matches.trailingDirs behind) accepted

/-- Alternatives take what one of them takes. -/
theorem cuts_alternatives {choices : List (List GlobPart)} (some_choice : choices ≠ []) :
    Cuts (Matches (.alternatives choices)) accept bytes ↔
      ∃ choice ∈ choices, Cuts (AllMatch choice) accept bytes := by
  -- A match of alternatives names the choice that matches, and there has to be one.
  constructor
  · rintro ⟨front, back, rfl, fit, accepted⟩
    cases fit with
    | noAlternative => exact absurd rfl some_choice
    | alternative member whole => exact ⟨_, member, Cuts.intro whole accepted⟩
  · rintro ⟨choice, member, front, back, rfl, whole, accepted⟩
    exact Cuts.intro (Matches.alternative member whole) accepted

mutual

/-- A part is matched exactly if the bytes can be cut behind what it matches. -/
theorem accepts_iff : ∀ (part : GlobPart) (accept : List UInt8 → Bool) (bytes : List UInt8),
    accepts accept part bytes = true ↔ Cuts part.Matches accept bytes
  -- By recursion on the part, where alternatives go on to lists of parts; each kind has its own
  -- cut.
  | .literal c, accept, bytes => by
    rw [accepts, Option.any_eq_true, cuts_literal]
    simp only [dropBeginning?_eq_some_iff]
  | .anyByte, accept, bytes => by
    rw [cuts_anyByte]
    cases bytes <;> simp [accepts]
  | .anyName, accept, bytes => by
    rw [accepts, List.any_eq_true, cuts_anyName]
  | .leadingDirs, accept, bytes => by
    rw [accepts, Bool.or_eq_true, List.any_eq_true, cuts_leadingDirs]
  | .trailingDirs, accept, bytes => by
    rw [cuts_trailingDirs]
    cases bytes <;> simp [accepts]
  | .innerDirs, accept, bytes => by
    simp only [cuts_innerDirs, cuts_leadingDirs]
    cases bytes <;> simp [accepts]
  | .byteClass negated ranges, accept, bytes => by
    rw [cuts_byteClass]
    cases bytes <;> simp [accepts]
  | .alternatives [], accept, bytes => by
    rw [accepts]
    constructor
    · intro accepted
      exact Cuts.intro Matches.noAlternative accepted
    · rintro ⟨front, back, rfl, fit, accepted⟩
      cases fit with
      | noAlternative => exact accepted
      | alternative member _ => cases member
  | .alternatives (first :: others), accept, bytes => by
    -- The first one is matched, or one of the others.
    have one := someAccept_iff (first :: others) accept bytes
    rw [someAccept] at one
    rw [accepts, one, cuts_alternatives (List.cons_ne_nil first others)]

/-- Parts are matched exactly if the bytes can be cut behind what they match together. -/
theorem allAccept_iff : ∀ (parts : List GlobPart) (accept : List UInt8 → Bool) (bytes : List UInt8),
    allAccept accept parts bytes = true ↔ Cuts (AllMatch parts) accept bytes
  -- By recursion on the parts, each of which cuts off the front of what is left.
  | [], accept, bytes => by
    rw [allAccept]
    constructor
    · intro accepted
      exact Cuts.intro AllMatch.nil accepted
    · rintro ⟨front, back, rfl, fit, accepted⟩
      cases fit
      exact accepted
  | part :: rest, accept, bytes => by
    rw [allAccept, accepts_iff part]
    constructor
    · rintro ⟨front, _, rfl, fit, accepted⟩
      -- The other parts are asked to accept what the first one leaves.
      obtain ⟨middle, back, rfl, whole, accepted⟩ := (allAccept_iff rest accept _).mp accepted
      rw [← List.append_assoc]
      exact Cuts.intro (AllMatch.cons fit whole) accepted
    · rintro ⟨_, back, rfl, fit, accepted⟩
      cases fit with
      | cons first later =>
        rw [List.append_assoc]
        exact Cuts.intro first ((allAccept_iff rest accept _).mpr (Cuts.intro later accepted))

/-- One of several patterns is matched exactly if the bytes can be cut behind what it matches. -/
theorem someAccept_iff : ∀ (choices : List (List GlobPart)) (accept : List UInt8 → Bool)
    (bytes : List UInt8),
    someAccept accept choices bytes = true ↔ ∃ choice ∈ choices, Cuts (AllMatch choice) accept bytes
  | [], accept, bytes => by simp [someAccept]
  | choice :: others, accept, bytes => by
    rw [someAccept, Bool.or_eq_true, allAccept_iff choice, someAccept_iff others]
    simp only [List.exists_mem_cons_iff]

end

end GlobPart

namespace Glob

/-- Two stars alone are told from every other pattern. -/
theorem isAnything_iff {glob : Glob} : glob.isAnything = true ↔ glob.parts = [.leadingDirs] := by
  unfold isAnything
  split <;> simp_all

/-- A pattern matches a path if its parts do, one behind the other; two stars alone match any. -/
theorem isMatch_iff {glob : Glob} {path : String} :
    glob.isMatch path = true ↔
      glob.parts = [.leadingDirs] ∨ GlobPart.AllMatch glob.parts (Utf8.encode path.toList) := by
  rw [isMatch, Bool.or_eq_true, isAnything_iff, GlobPart.allAccept_iff]
  refine or_congr_right ⟨?_, fun whole => ⟨_, [], (List.append_nil _).symm, whole, rfl⟩⟩
  rintro ⟨front, back, split, whole, ended⟩
  -- The whole path is matched if nothing is left behind the parts.
  rw [List.isEmpty_iff.mp ended, List.append_nil] at split
  rwa [split]

end Glob

end SpecTrace
