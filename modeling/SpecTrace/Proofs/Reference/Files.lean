import SpecTrace.Proofs.Path.Moved
import SpecTrace.Proofs.Pointer.EncodedBytes
import SpecTrace.Proofs.Reference.Segments

/-! Which file a relative reference leads to: seen from a file below a directory, a path below that
directory which the directory has no influence on. -/

namespace SpecTrace

/-! ### Percent-encoded names -/

namespace Percent

/-- A hexadecimal digit is read as the number that it was written for. -/
theorem digitValue?_hexDigit {n : Nat} (digit : n < 16) : digitValue? 16 (hexDigit n) = some n := by
  interval_cases n <;> rfl

/-- A hexadecimal digit is no slash. -/
theorem hexDigit_ne_slash {n : Nat} (digit : n < 16) : hexDigit n ≠ '/' := by
  interval_cases n <;> decide

/-- An encoded byte is decoded. -/
theorem decode_escapeByte (b : UInt8) (rest : List Char) :
    decode (escapeByte b ++ rest) = b :: decode rest := by
  have bound := b.toNat_lt
  have high := digitValue?_hexDigit (show b.toNat / 16 < 16 by omega)
  have low := digitValue?_hexDigit (show b.toNat % 16 < 16 by omega)
  -- Both digits together are the byte.
  have whole : b.toNat / 16 * 16 + b.toNat % 16 = b.toNat := by omega
  rw [escapeByte, List.cons_append, List.cons_append, List.cons_append, List.nil_append, decode]
  simp only [high, low, whole]
  rw [UInt8.ofNat_toNat]

/-- Encoded bytes are decoded one by one. -/
theorem decode_escapeBytes (bytes : List UInt8) (rest : List Char) :
    decode (bytes.flatMap escapeByte ++ rest) = bytes ++ decode rest := by
  -- By induction on the bytes.
  induction bytes with
  | nil => rfl
  | cons b bytes ih =>
    rw [List.flatMap_cons, List.append_assoc, decode_escapeByte, ih, List.cons_append]

/-- A text that is encoded with all of its percent signs is decoded to its bytes. -/
theorem decode_encode {set : Char → Bool} (signs : set '%' = true) (text rest : List Char) :
    decode (encode set text ++ rest) = Utf8.encode text ++ decode rest := by
  -- By induction on the text: a character is encoded byte by byte, or stays as it is.
  induction text with
  | nil => rfl
  | cons c text ih =>
    have shape : encode set (c :: text) =
        (if 0x80 ≤ c.toNat || set c then (Utf8.encode [c]).flatMap escapeByte else [c]) ++
          encode set text := by
      rw [encode, List.flatMap_cons]
      rfl
    have bytes : Utf8.encode (c :: text) = Utf8.encode [c] ++ Utf8.encode text := by
      simp [Utf8.encode]
    rw [shape, List.append_assoc, bytes, List.append_assoc, ← ih]
    split
    · exact decode_escapeBytes _ _
    · rename_i bare
      -- A character that stays as it is is no percent sign.
      have other : c ≠ '%' := by
        rintro rfl
        simp [signs] at bare
      exact decode_cons_of_bare (bare_of_ne other _)

/-- A text that is encoded with all of its slashes has none. -/
theorem slash_not_mem_encode {set : Char → Bool} (slashes : set '/' = true) (text : List Char) :
    '/' ∉ encode set text := by
  intro member
  obtain ⟨c, _, inside⟩ := List.mem_flatMap.mp member
  -- A character is spelled by percent signs and digits, or it stays since it need not be encoded.
  split at inside
  · obtain ⟨b, _, digit⟩ := List.mem_flatMap.mp inside
    have bound := b.toNat_lt
    have high := hexDigit_ne_slash (show b.toNat / 16 < 16 by omega)
    have low := hexDigit_ne_slash (show b.toNat % 16 < 16 by omega)
    simp only [escapeByte, List.mem_cons, List.not_mem_nil, or_false] at digit
    rcases digit with sign | same | same
    · cases sign
    · exact high same.symm
    · exact low same.symm
  · rename_i bare
    rw [List.mem_singleton] at inside
    subst inside
    simp [slashes] at bare

end Percent

namespace Url

/-- The path of the URL of a place. -/
def spelled (path : FilePath) : List Char :=
  path.flatMap fun name => '/' :: Percent.encode isEncodedInSegment name.toList

/-- The URL of a file spells its place. -/
theorem ofFile?_text {path : FilePath} (plain : path.Plain) (some_name : path ≠ []) :
    ofFile? path.text = some (spelled path) := by
  rw [ofFile?, FilePath.pathComponents_text plain]
  dsimp only
  rw [if_neg (by simpa using some_name), List.flatMap_map]
  rfl

/-- Each name of a place is spelled with one slash. -/
theorem count_spelled (path : FilePath) : (spelled path).count '/' = path.length := by
  -- By induction on the path: the names are encoded with their slashes.
  induction path with
  | nil => rfl
  | cons name path ih =>
    have free : '/' ∉ Percent.encode isEncodedInSegment name.toList :=
      Percent.slash_not_mem_encode rfl name.toList
    have none := List.count_eq_zero.mpr free
    rw [spelled, List.flatMap_cons, ← spelled, List.count_append, List.count_cons_self, none, ih,
      List.length_cons]
    omega

/-- Names behind one another are spelled behind one another. -/
theorem spelled_append (front back : FilePath) : spelled (front ++ back) = spelled front ++ spelled back :=
  List.flatMap_append

/-! ### Names of a URL -/

/-- The bytes of a path, with a slash behind a drive letter at its end. -/
def closedBytes (bytes : List UInt8) : List UInt8 :=
  if isDriveLetter (((Utf8.encode ['/'] ++ bytes).reverse.take 2).reverse.map
    fun b => Char.ofNat b.toNat) then bytes ++ [47] else bytes

/-- The names of the file that a URL path leads to, without its first slash. -/
def fileNames (rest : List Char) : List PathName :=
  (splitBytes (closedBytes (Percent.decode rest))).map PathName.ofBytes

/-- A file URL leads to the names of its path. -/
theorem toFile?_slash (rest : List Char) :
    toFile? ⟨"file".toList, none, '/' :: rest⟩ = some (fileNames rest) :=
  rfl

/-- What is in front of a slash does not decide whether a drive letter is at the end. -/
theorem closedBytes_append (front back : List UInt8) :
    closedBytes (front ++ 47 :: back) = front ++ 47 :: closedBytes back := by
  -- Only the last two bytes are looked at, so they are computed on the reversed path.
  have same : isDriveLetter (((Utf8.encode ['/'] ++ (front ++ 47 :: back)).reverse.take 2).reverse.map
        fun b => Char.ofNat b.toNat) =
      isDriveLetter (((Utf8.encode ['/'] ++ back).reverse.take 2).reverse.map
        fun b => Char.ofNat b.toNat) := by
    have slash : Utf8.encode ['/'] = [47] := by decide
    rw [slash]
    obtain ⟨b, more, shape⟩ : ∃ b more, front.reverse ++ [47] = b :: more :=
      List.exists_cons_of_ne_nil (by simp)
    simp only [List.reverse_append, List.reverse_cons, List.append_assoc, List.singleton_append]
    rw [List.cons_append, shape]
    -- Behind two bytes it makes no difference what comes, and a slash is no mark of a drive letter.
    rcases back.reverse with _ | ⟨last, _ | ⟨before, more⟩⟩
    · simp [isDriveLetter]
    · rfl
    · rfl
  unfold closedBytes
  rw [same]
  split <;> simp

/-- The first slash ends the first of the names. -/
theorem splitBytes_append {front : List UInt8} (plain : 47 ∉ front) (back : List UInt8) :
    splitBytes (front ++ 47 :: back) = front :: splitBytes back := by
  -- By induction on the name, up to the slash behind it.
  induction front with
  | nil => rw [List.nil_append, splitBytes, if_pos rfl]
  | cons b front ih =>
    -- The first byte belongs to the name, since it is no slash.
    obtain ⟨here, later⟩ := not_or.mp (fun is => plain (List.mem_cons.mpr is))
    rw [List.cons_append, splitBytes, if_neg (Ne.symm here), ih later]

/-- The bytes of a name without a slash have none. -/
theorem slash_not_mem_encode {text : List Char} (plain : '/' ∉ text) : 47 ∉ Utf8.encode text := by
  intro member
  obtain ⟨c, present, inside⟩ := List.mem_flatMap.mp member
  have same := (Utf8.eq_of_mem_utf8EncodeChar inside (by decide)).2
  have slash : c = '/' := Char.toNat_inj.mp same
  exact plain (slash ▸ present)

/-- The bytes of a name are read as that name. -/
theorem ofBytes_encode (name : String) : PathName.ofBytes (Utf8.encode name.toList) = .text name := by
  have read : Utf8.text? (Utf8.encode name.toList) = some name := by
    rw [Utf8.text?, Utf8.decode_encode]
    -- Every character is decoded to itself, so all of them are.
    have whole : (name.toList.map some).mapM id = some name.toList := by
      generalize name.toList = chars
      induction chars with
      | nil => rfl
      | cons c rest ih => simp [List.mapM_cons, ih]
    rw [whole, Option.map_some, String.ofList_toList]
  rw [PathName.ofBytes, read]

/-- A name that is spelled in front of a slash is the first of the names. -/
theorem fileNames_cons {name : String} (plain : '/' ∉ name.toList) (rest : List Char) :
    fileNames (Percent.encode isEncodedInSegment name.toList ++ '/' :: rest) =
      .text name :: fileNames rest := by
  -- Decoding undoes the encoding of the name and keeps the slash, and the names are split there.
  have slash : Percent.decode ('/' :: rest) = 47 :: Percent.decode rest :=
    Percent.decode_cons_of_bare (Percent.bare_of_ne (by decide) _)
  rw [fileNames, Percent.decode_encode rfl, slash, closedBytes_append,
    splitBytes_append (slash_not_mem_encode plain), List.map_cons, ofBytes_encode]
  rfl

/-- The names of a directory that is spelled in front are the first of the names. -/
theorem toFile?_spelled {directory : FilePath} (plain : directory.Plain) (rest : List Char) :
    toFile? ⟨"file".toList, none, spelled directory ++ '/' :: rest⟩ =
      some (directory.names ++ fileNames rest) := by
  -- By induction on the directory: its first name is the first that is read.
  induction directory with
  | nil => rfl
  | cons name directory ih =>
    obtain ⟨here, later⟩ := List.forall_mem_cons.mp plain
    -- Behind a name there is always a slash, that of the next name or that of the rest.
    obtain ⟨behind, shape⟩ : ∃ behind, spelled directory ++ '/' :: rest = '/' :: behind := by
      cases directory with
      | nil => exact ⟨rest, rfl⟩
      | cons next more => exact ⟨_, by simp [spelled]; rfl⟩
    have further := ih later
    rw [shape, toFile?_slash, Option.some.injEq] at further
    have whole : spelled (name :: directory) ++ '/' :: rest =
        '/' :: (Percent.encode isEncodedInSegment name.toList ++ '/' :: behind) := by
      rw [← shape, spelled, List.flatMap_cons, ← spelled]
      simp
    rw [whole, toFile?_slash, fileNames_cons here.2, further]
    rfl

/-- Slashes at the beginning stand for empty names. -/
theorem fileNames_slashes (rest : List Char) :
    ∃ n, fileNames rest = List.replicate n (.text "") ++ fileNames (rest.dropWhile (· = '/')) := by
  -- By induction on the slashes at the beginning, each of which ends an empty name.
  induction rest with
  | nil => exact ⟨0, rfl⟩
  | cons c rest ih =>
    by_cases slash : c = '/'
    · subst slash
      obtain ⟨n, same⟩ := ih
      have first : fileNames ('/' :: rest) = .text "" :: fileNames rest :=
        @fileNames_cons "" (by simp) rest
      refine ⟨n + 1, ?_⟩
      rw [first, same, List.replicate_succ, List.cons_append, List.dropWhile_cons_of_pos (by simp)]
    · exact ⟨0, by rw [List.dropWhile_cons_of_neg (by simpa using slash)]; rfl⟩

end Url

end SpecTrace
