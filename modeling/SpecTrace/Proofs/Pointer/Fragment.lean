import SpecTrace.Reference.Reference
import SpecTrace.Proofs.Text.Utf8

/-! A pointer that is written as a fragment is read back, unless a part of it looks like an encoded
byte. -/

namespace SpecTrace

/-- Nowhere in a text do two hexadecimal digits follow a percent sign. -/
def Percent.Plain (text : List Char) : Prop :=
  ∀ front high low back, text = front ++ '%' :: high :: low :: back →
    digitValue? 16 high = none ∨ digitValue? 16 low = none

/-- What stands inside a plain text is plain. -/
theorem Percent.Plain.inside {text inner : List Char} (plain : Plain text) (within : inner <:+: text) :
    Plain inner := by
  obtain ⟨front, back, rfl⟩ := within
  rintro before high low behind rfl
  exact plain (front ++ before) high low (behind ++ back) (by simp)

/-- A text without percent signs is plain. -/
theorem Percent.plain_of_not_mem {text : List Char} (free : '%' ∉ text) : Plain text := by
  rintro front high low back rfl
  exact absurd (by simp) free

/-- The bytes of a plain text are those of its characters. -/
theorem Percent.decode_of_plain {text : List Char} (plain : Plain text) :
    decode text = Utf8.encode text := by
  -- By induction along the decoding: in a plain text no case finds two digits.
  induction text using decode.induct with
  | case1 => rfl
  | case2 high low rest h l high_is low_is ih =>
    -- Here a byte would be decoded.
    rcases plain [] high low rest rfl with missing | missing <;> simp_all
  | case3 high low rest missing ih =>
    rw [decode]
    split
    · -- Two digits would be a byte here, too.
      rename_i h l high_is low_is
      exact (missing h l high_is low_is).elim
    · rw [ih (plain.inside (List.suffix_cons _ _).isInfix)]
      simp [Utf8.encode]
  | case4 c rest other ih =>
    rw [decode, ih (plain.inside (List.suffix_cons _ _).isInfix)]
    · simp [Utf8.encode]
    · exact other

/-- Behind a character other than a tilde, replacing goes on. -/
theorem replaceMark_cons {digit replacement c : Char} (other : c ≠ '~') (rest : List Char) :
    replaceMark digit replacement (c :: rest) = c :: replaceMark digit replacement rest := by
  cases rest with
  | nil => rfl
  | cons d rest => rw [replaceMark, if_neg (fun mark => other mark.1)]

/-- A tilde with the digit behind it is replaced. -/
theorem replaceMark_mark (digit replacement : Char) (rest : List Char) :
    replaceMark digit replacement ('~' :: digit :: rest) =
      replacement :: replaceMark digit replacement rest := by
  simp [replaceMark]

/-- The first of the two passes brings back slashes. -/
theorem replaceMark_escapeChars (cs : List Char) :
    replaceMark '1' '/' (escapeChars cs) =
      cs.flatMap fun c => if c = '~' then ['~', '0'] else [c] := by
  unfold escapeChars
  -- By induction on the segment, a character at a time.
  induction cs with
  | nil => rfl
  | cons c rest ih =>
    simp only [List.flatMap_cons, escapeSegmentChar]
    by_cases tilde : c = '~'
    · -- The digit behind the tilde is zero, so this pass leaves both.
      simp [tilde, replaceMark, replaceMark_cons, ih]
    · by_cases slash : c = '/'
      · -- The mark of a slash is the one that this pass replaces.
        simp [slash, replaceMark_mark, ih]
      · simp [tilde, slash, replaceMark_cons tilde, ih]

/-- An escaped segment is read back. -/
theorem unescapeChars_escapeChars (cs : List Char) : unescapeChars (escapeChars cs) = cs := by
  unfold unescapeChars
  -- Behind the first pass only tildes are marked.
  rw [replaceMark_escapeChars]
  -- By induction on the segment: the second pass finds the zeros behind the tildes.
  induction cs with
  | nil => rfl
  | cons c rest ih =>
    rw [List.flatMap_cons]
    by_cases tilde : c = '~'
    · simp [tilde, replaceMark_mark, ih]
    · simp [tilde, replaceMark_cons tilde, ih]

/-- No slash is left in an escaped segment. -/
theorem slash_not_mem_escapeChars (cs : List Char) : '/' ∉ escapeChars cs := by
  unfold escapeChars
  rw [List.mem_flatMap]
  rintro ⟨c, _, inside⟩
  unfold escapeSegmentChar at inside
  -- A tilde is marked by a zero, a slash by a one, and others stay.
  split at inside
  · simp at inside
  · split at inside
    · simp at inside
    · rename_i other
      exact other (List.mem_singleton.mp inside).symm

/-- A text without a separator is one part. -/
theorem splitChars_of_not_mem {separator : Char} {part : List Char} (free : separator ∉ part) :
    splitChars separator part = [part] := by
  -- By induction on the part, which the separator never ends.
  induction part with
  | nil => rfl
  | cons c rest ih =>
    obtain ⟨here, later⟩ := not_or.mp (fun is => free (List.mem_cons.mpr is))
    rw [splitChars, if_neg (Ne.symm here), ih later]

/-- The first separator ends the first part. -/
theorem splitChars_append {separator : Char} {part : List Char} (free : separator ∉ part)
    (rest : List Char) :
    splitChars separator (part ++ separator :: rest) = part :: splitChars separator rest := by
  -- By induction on the part, up to the separator behind it.
  induction part with
  | nil => simp [splitChars]
  | cons c others ih =>
    obtain ⟨here, later⟩ := not_or.mp (fun is => free (List.mem_cons.mpr is))
    rw [List.cons_append, splitChars, if_neg (Ne.symm here), ih later]

/-- Parts with a separator in front of each are told apart at the separators. -/
theorem splitChars_flatMap {separator : Char} {first : List Char} {parts : List (List Char)}
    (here : separator ∉ first) (free : ∀ part ∈ parts, separator ∉ part) :
    splitChars separator (first ++ parts.flatMap fun part => separator :: part) = first :: parts := by
  -- By induction on the parts behind the first one.
  induction parts generalizing first with
  | nil =>
    -- The last part has no separator behind it.
    rw [List.flatMap_nil, List.append_nil]
    exact splitChars_of_not_mem here
  | cons next parts ih =>
    -- The separator in front of the next part ends this one.
    obtain ⟨following, others⟩ := List.forall_mem_cons.mp free
    rw [List.flatMap_cons, List.cons_append, splitChars_append here, ih following others]

namespace Pointer

/-- The characters of the plain form. -/
theorem toList_text (p : Pointer) :
    p.text.toList = p.flatMap fun segment => '/' :: escapeChars segment.toList := by
  rw [text, String.toList_ofList]

/-- The plain form goes on behind the first segment. -/
theorem toList_text_cons (segment : String) (rest : Pointer) :
    (text (segment :: rest)).toList = '/' :: (escapeChars segment.toList ++ (text rest).toList) := by
  rw [toList_text, List.flatMap_cons, List.cons_append, toList_text]

/-- Behind its first slash, the plain form has one part for each segment. -/
theorem splitChars_text (segment : String) (rest : Pointer) :
    splitChars '/' (escapeChars segment.toList ++ (text rest).toList) =
      (segment :: rest).map fun part => escapeChars part.toList := by
  -- The rest is its escaped segments with a slash in front of each.
  have written : (text rest).toList =
      (rest.map fun part => escapeChars part.toList).flatMap fun part => '/' :: part := by
    rw [toList_text, List.flatMap_map]
  rw [written, splitChars_flatMap (slash_not_mem_escapeChars _), List.map_cons]
  intro part member
  obtain ⟨segment, _, rfl⟩ := List.mem_map.mp member
  exact slash_not_mem_escapeChars _

/-- A plain form is read segment by segment. -/
theorem parseWith_toList_text (segment : String → String) (p : Pointer) :
    parseWith segment (text p).toList = p.map fun part => segment (escape part) := by
  -- The text of a pointer with segments begins with a slash, which the reader skips.
  cases p with
  | nil => rfl
  | cons first rest =>
    rw [toList_text_cons]
    simp only [parseWith, splitChars_text, List.map_map]
    rfl

/-- Read as a pointer in plain form, a plain form is read back. -/
theorem parse_text (p : Pointer) : parse p.text = p := by
  have unescaped : parse p.text = parseWith unescape p.text.toList := by
    -- The text is empty or begins with a slash, so it is no fragment.
    cases p <;> simp [parse, toList_text]
  rw [unescaped, parseWith_toList_text]
  refine (List.map_congr_left fun segment _ => ?_).trans (List.map_id p)
  rw [unescape, escape, String.toList_ofList, unescapeChars_escapeChars, String.ofList_toList, id]

/-- A segment without encoded bytes is read back. -/
theorem decodeSegment_escapeChars {segment : String}
    (plain : Percent.Plain (escapeChars segment.toList)) :
    decodeSegment (String.ofList (escapeChars segment.toList)) = segment := by
  rw [decodeSegment, String.toList_ofList, Percent.decode_of_plain plain, Utf8.decode_encode,
    List.map_map]
  -- No character is replaced by a mark.
  have same : (escapeChars segment.toList).map ((fun c => c.getD '\uFFFD') ∘ some) =
      escapeChars segment.toList := List.map_id _
  rw [same, unescapeChars_escapeChars, String.ofList_toList]

/-- The segments of a plain form stand in it. -/
theorem infix_text {p : Pointer} {segment : String} (member : segment ∈ p) :
    escapeChars segment.toList <:+: (text p).toList := by
  obtain ⟨front, back, rfl⟩ := List.append_of_mem member
  rw [toList_text, List.flatMap_append, List.flatMap_cons]
  -- A slash stands in front of it.
  exact ⟨front.flatMap (fun part => '/' :: escapeChars part.toList) ++ ['/'],
    back.flatMap fun part => '/' :: escapeChars part.toList, by simp⟩

/-- A plain form without encoded bytes is read back from a fragment. -/
theorem parseWith_text {p : Pointer} (plain : Percent.Plain (text p).toList) :
    parseWith decodeSegment (text p).toList = p := by
  rw [parseWith_toList_text]
  refine (List.map_congr_left fun segment member => ?_).trans (List.map_id p)
  exact decodeSegment_escapeChars (plain.inside (infix_text member))

end Pointer

/-- A fragment starts with a number sign. -/
theorem Pointer.toList_fragment (p : Pointer) :
    p.fragment.toList = '#' :: p.text.toList := by
  rw [fragment, String.toList_append]
  rfl

/-- A reference that spells a pointer as a fragment without encoded bytes points there. -/
theorem Reference.parse_fragment {p : Pointer} (plain : Percent.Plain p.fragment.toList) :
    (Reference.parse p.fragment).pointer = p := by
  -- The plain form is the fragment without the number sign, so it has no encoded byte either.
  rw [Pointer.toList_fragment] at plain
  have inner : Percent.Plain p.text.toList := plain.inside (List.suffix_cons _ _).isInfix
  -- Nothing stands before the number sign.
  simp only [parse, Pointer.toList_fragment, List.takeWhile_cons]
  simp [Pointer.parse, Pointer.parseWith_text inner]

end SpecTrace
