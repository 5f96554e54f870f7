import Mathlib.Data.List.Induction
import SpecTrace.Document.Format
import SpecTrace.Proofs.Number.Digits
import SpecTrace.Proofs.Number.Spelling
import SpecTrace.Yaml.CoreSchema

/-! The core schema of YAML 1.2 as a grammar. Plain scalars resolve by it, but for numbers in another
radix that have a sign behind the mark of the radix: the schema has no such numbers, and they are
read. -/

namespace SpecTrace.CoreSchema

open Grammar

/-! ### The schema -/

/-- The spellings of null. -/
def nulls : List String :=
  ["", "~", "null", "Null", "NULL"]

/-- The spellings of the truth values. -/
def booleans : List (String × Bool) :=
  [("true", true), ("True", true), ("TRUE", true), ("false", false), ("False", false),
    ("FALSE", false)]

/-- A digit of a radix of up to sixteen, with its value. -/
inductive Digit (radix : Nat) : Char → Nat → Prop
  | decimal {value : Nat} (small : value < 10) (within : value < radix) :
    Digit radix (Char.ofNat ('0'.toNat + value)) value
  | lower {value : Nat} (small : value < 6) (within : 10 + value < radix) :
    Digit radix (Char.ofNat ('a'.toNat + value)) (10 + value)
  | upper {value : Nat} (small : value < 6) (within : 10 + value < radix) :
    Digit radix (Char.ofNat ('A'.toNat + value)) (10 + value)

/-- Digits of a radix, with the number they spell. -/
inductive Digits (radix : Nat) : List Char → Nat → Prop
  | single {c : Char} {value : Nat} (digit : Digit radix c value) : Digits radix [c] value
  | more {text : List Char} {number value : Nat} {c : Char} (front : Digits radix text number)
    (last : Digit radix c value) : Digits radix (text ++ [c]) (number * radix + value)

/-- A number with a sign. -/
def withSign (negative : Bool) (number : Nat) : Int :=
  if negative then -(number : Int) else number

/-- The characters that mark a radix behind a zero. -/
def marks : List (Char × Nat) :=
  [('o', 8), ('x', 16)]

/-- A mark with a sign and digits of its radix, and the integer of 64 bits with a sign that they
spell. -/
inductive Marked (sign : List Char) : List Char → Int → Prop
  | mk {mark : Char} {radix number : Nat} {digits : List Char} {negative : Bool}
    (known : (mark, radix) ∈ marks) (signed : Sign sign negative)
    (spelled : Digits radix digits number)
    (fits : -2 ^ 63 ≤ withSign negative number ∧ withSign negative number < 2 ^ 63) :
    Marked sign ('0' :: mark :: (sign ++ digits)) (withSign negative number)

/-- An integer: decimal digits with an optional sign, if 64 bits hold what they spell, with a sign or
without, or a mark with digits of its radix. -/
inductive Integer : List Char → Int → Prop
  | decimal {sign digits : List Char} {negative : Bool} (signed : Sign sign negative)
    (spelled : IsDigits digits) (fits : Parts.IsInteger ⟨negative, digits, [], none⟩) :
    Integer (sign ++ digits) (Parts.integer ⟨negative, digits, [], none⟩)
  | marked {text : List Char} {i : Int} (spelled : Marked [] text i) : Integer text i

/-- A decimal form whose nearest binary64 value is a finite number. -/
def Floating (text : List Char) (x : Finite64) : Prop :=
  ∃ parts, DecimalForm text parts ∧ parts.binary = .finite x

/-- What a text stands for. Integers come before floats, and every other text is a string. -/
inductive Resolves (text : List Char) : Scalar → Prop
  | null (known : String.ofList text ∈ nulls) : Resolves text .null
  | bool {value : Bool} (known : (String.ofList text, value) ∈ booleans) :
    Resolves text (.bool value)
  | integer {i : Int} (spelled : Integer text i) : Resolves text (.number (.int i))
  | floating {x : Finite64} (notInteger : ∀ i, ¬Integer text i) (spelled : Floating text x) :
    Resolves text (.number (.float x))
  | string (notNull : String.ofList text ∉ nulls)
    (notBool : ∀ value, (String.ofList text, value) ∉ booleans)
    (notInteger : ∀ i, ¬Integer text i) (notFloating : ∀ x, ¬Floating text x) :
    Resolves text (.string (String.ofList text))

/-- A number in another radix with a sign behind the mark, which the schema does not have. -/
def Signed (text : List Char) (i : Int) : Prop :=
  ∃ sign, sign ≠ [] ∧ Marked sign text i

/-! ### Digits -/

variable {text digits : List Char} {radix number : Nat} {negative : Bool} {i : Int}

/-- The value of a digit does not depend on the radix, which only bounds it. -/
theorem digitValue?_iff_sixteen (small : radix ≤ 16) {c : Char} {value : Nat} :
    digitValue? radix c = some value ↔ digitValue? 16 c = some value ∧ value < radix := by
  unfold digitValue?
  -- The radix occurs in the bound only.
  simp only [Option.ite_none_right_eq_some, Option.some.injEq]
  constructor
  · rintro ⟨within, rfl⟩
    exact ⟨⟨by omega, rfl⟩, within⟩
  · rintro ⟨⟨_, rfl⟩, within⟩
    exact ⟨within, rfl⟩

/-- The code of a character counts from one below it. -/
theorem eq_ofNat_of_le {base c : Char} (low : base ≤ c) :
    c = Char.ofNat (base.toNat + (c.toNat - base.toNat)) := by
  have below : base.toNat ≤ c.toNat := low
  -- The difference is not cut off at zero.
  rw [Nat.add_sub_cancel' below]
  exact (Char.ofNat_toNat c).symm

/-- A character has a value in a radix exactly if it is a digit with that value. -/
theorem digitValue?_iff (small : radix ≤ 16) {c : Char} {value : Nat} :
    digitValue? radix c = some value ↔ Digit radix c value := by
  -- The radix only limits the value, so it is a question about the sixteen digits.
  rw [digitValue?_iff_sixteen small]
  constructor
  · rintro ⟨read, within⟩
    unfold digitValue? at read
    simp only [Option.ite_none_right_eq_some, Option.some.injEq] at read
    obtain ⟨range, rfl⟩ := read
    -- The character is in one of the three ranges of digits.
    by_cases decimal : '0' ≤ c ∧ c ≤ '9'
    · have high : c.toNat ≤ '0'.toNat + 9 := decimal.2
      rw [if_pos decimal] at within ⊢
      conv => arg 2; rw [eq_ofNat_of_le decimal.1]
      exact .decimal (by omega) within
    · rw [if_neg decimal] at range within ⊢
      by_cases lower : 'a' ≤ c ∧ c ≤ 'f'
      · have high : c.toNat ≤ 'a'.toNat + 5 := lower.2
        rw [if_pos lower, Nat.add_comm] at within ⊢
        conv => arg 2; rw [eq_ofNat_of_le lower.1]
        exact .lower (by omega) within
      · rw [if_neg lower] at range within ⊢
        by_cases upper : 'A' ≤ c ∧ c ≤ 'F'
        · have high : c.toNat ≤ 'A'.toNat + 5 := upper.2
          rw [if_pos upper, Nat.add_comm] at within ⊢
          conv => arg 2; rw [eq_ofNat_of_le upper.1]
          exact .upper (by omega) within
        · rw [if_neg upper] at range
          exact absurd range (Nat.lt_irrefl 16)
  · rintro digit
    -- The digits of each range are few enough to be tried one by one.
    have decimal : ∀ value < 10, digitValue? 16 (Char.ofNat ('0'.toNat + value)) = some value := by
      decide
    have lower : ∀ value < 6,
        digitValue? 16 (Char.ofNat ('a'.toNat + value)) = some (10 + value) := by decide
    have upper : ∀ value < 6,
        digitValue? 16 (Char.ofNat ('A'.toNat + value)) = some (10 + value) := by decide
    cases digit with
    | decimal less within => exact ⟨decimal _ less, within⟩
    | lower less within => exact ⟨lower _ less, within⟩
    | upper less within => exact ⟨upper _ less, within⟩

/-- One digit more is read behind the others. -/
theorem readDigits?_snoc (front : List Char) (c : Char) :
    readDigits? radix 0 (front ++ [c]) =
      (readDigits? radix 0 front).bind fun number =>
        (digitValue? radix c).map fun value => number * radix + value := by
  -- What is read last counts once, and what was read before counts once more by the radix.
  rw [readDigits?_append]
  congr 1
  funext number
  simp only [readDigits?]
  cases digitValue? radix c <;> rfl

/-- Digits are read as the number they spell. -/
theorem Digits.read (small : radix ≤ 16) (spelled : Digits radix text number) :
    readDigits? radix 0 text = some number := by
  -- By induction along the digits, which the grammar puts one behind the others.
  induction spelled with
  | single digit => simp [readDigits?, (digitValue?_iff small).mpr digit]
  | more front last ih =>
    rw [readDigits?_snoc, ih, (digitValue?_iff small).mpr last]
    rfl

/-- There is at least one digit. -/
theorem Digits.ne_nil (spelled : Digits radix text number) : text ≠ [] := by
  cases spelled <;> simp

/-- What is read as a number is digits that spell it. -/
theorem digits_of_read (small : radix ≤ 16) (filled : text ≠ [])
    (read : readDigits? radix 0 text = some number) : Digits radix text number := by
  -- The last digit is taken off.
  induction text using List.reverseRecOn generalizing number with
  | nil => exact absurd rfl filled
  | append_singleton front c ih =>
    rw [readDigits?_snoc] at read
    obtain ⟨before, readFront, last⟩ := Option.bind_eq_some_iff.mp read
    obtain ⟨value, digit, rfl⟩ := Option.map_eq_some_iff.mp last
    have digit := (digitValue?_iff small).mp digit
    -- The grammar starts with a single digit and not with none.
    by_cases alone : front = []
    · subst alone
      cases readFront
      rw [Nat.zero_mul, Nat.zero_add]
      exact .single digit
    · exact .more (ih alone readFront) digit

/-- Digits do not begin with a sign. -/
theorem unsigned_of_read (small : radix ≤ 16) (read : readDigits? radix 0 text = some number) :
    Stops isSign text := by
  intro c first
  obtain ⟨rest, rfl⟩ := List.head?_eq_some_iff.mp first
  -- A sign has no value in any of the radices.
  have noSign : ∀ sign, isSign sign = true → digitValue? 16 sign = none := by
    intro sign signed
    simp only [isSign, Bool.or_eq_true, decide_eq_true_eq] at signed
    rcases signed with rfl | rfl <;> rfl
  obtain ⟨value, one, _⟩ := Option.bind_eq_some_iff.mp read
  refine Bool.eq_false_iff.mpr fun signed => ?_
  have sixteen := ((digitValue?_iff_sixteen small).mp one).1
  rw [noSign c signed] at sixteen
  cases sixteen

/-- Digits are letters and decimal digits. -/
theorem Digits.chars (spelled : Digits radix text number) : ∀ c ∈ text, c.isAlphanum = true := by
  -- By induction on the digits; that each of them is a letter or a decimal digit is a finite check.
  have one : ∀ {c : Char} {value : Nat}, Digit radix c value → c.isAlphanum = true := by
    intro c value digit
    have decimal : ∀ value < 10, (Char.ofNat ('0'.toNat + value)).isAlphanum = true := by decide
    have lower : ∀ value < 6, (Char.ofNat ('a'.toNat + value)).isAlphanum = true := by decide
    have upper : ∀ value < 6, (Char.ofNat ('A'.toNat + value)).isAlphanum = true := by decide
    cases digit with
    | decimal less _ => exact decimal _ less
    | lower less _ => exact lower _ less
    | upper less _ => exact upper _ less
  induction spelled with
  | single digit => simpa using one digit
  | more front last ih => exact List.forall_mem_append.mpr ⟨ih, by simpa using one last⟩

/-- An integer is digits with an optional sign. -/
theorem readInteger?_iff (small : radix ≤ 16) :
    readInteger? radix text = some i ↔ ∃ sign negative digits number, text = sign ++ digits ∧
      Sign sign negative ∧ Digits radix digits number ∧ i = withSign negative number := by
  -- The sign is taken off in two places, once as a minus and once as a plus.
  constructor
  · intro read
    unfold readInteger? readNatural? at read
    -- A minus is taken off first, and then the reader of natural numbers takes off a plus.
    split at read
    · cases read
    · rename_i digits filled
      obtain ⟨_, cast, rfl⟩ := Option.map_eq_some_iff.mp read
      obtain ⟨number, natural, same⟩ := Option.bind_eq_some_iff.mp cast
      cases same
      exact ⟨['-'], true, digits, number, rfl, .minus, digits_of_read small filled natural, rfl⟩
    · obtain ⟨number, natural, rfl⟩ := Option.map_eq_some_iff.mp read
      split at natural
      · cases natural
      · cases natural
      · rename_i digits filled _ _
        exact ⟨['+'], false, digits, number, rfl, .plus, digits_of_read small filled natural, rfl⟩
      · rename_i filled _ _
        exact ⟨[], false, text, number, rfl, .absent, digits_of_read small filled natural, rfl⟩
  · rintro ⟨sign, negative, digits, number, rfl, signed, spelled, rfl⟩
    have read := spelled.read small
    have filled := spelled.ne_nil
    -- There is a digit, so that a lone sign is not in the way.
    obtain ⟨first, rest, rfl⟩ := List.exists_cons_of_ne_nil filled
    unfold readInteger? readNatural?
    cases signed with
    | minus => simp [read, withSign]
    | plus => simp [read, withSign]
    | absent =>
      have unsigned := unsigned_of_read small read first rfl
      simp only [isSign, Bool.or_eq_false_iff, decide_eq_false_iff_not] at unsigned
      simp [read, withSign, unsigned]

/-! ### Numbers -/

/-- Every text is a sign, which may be missing, with what stands behind it. -/
theorem exists_sign (text : List Char) :
    ∃ sign, Sign sign (Binary64.splitSign text).1 ∧ text = sign ++ (Binary64.splitSign text).2 := by
  unfold Binary64.splitSign
  split
  · exact ⟨['-'], .minus, rfl⟩
  · exact ⟨['+'], .plus, rfl⟩
  · exact ⟨[], .absent, rfl⟩

/-- The rule for integers asks for digits with an optional sign. -/
theorem matchesInteger_iff :
    matchesInteger text = true ↔
      ∃ sign negative digits, text = sign ++ digits ∧ Sign sign negative ∧ IsDigits digits := by
  -- The sign is split off first, and the rest has to be digits and not empty.
  constructor
  · intro matched
    obtain ⟨sign, signed, same⟩ := exists_sign text
    unfold matchesInteger at matched
    simp only [Bool.and_eq_true, Bool.not_eq_true', List.isEmpty_eq_false_iff, List.all_eq_true]
      at matched
    exact ⟨sign, _, _, same, signed, matched⟩
  · rintro ⟨sign, negative, digits, rfl, signed, spelled⟩
    unfold matchesInteger
    simp only [signed.splitSign spelled, Bool.and_eq_true, Bool.not_eq_true',
      List.isEmpty_eq_false_iff, List.all_eq_true]
    exact spelled

/-- The rule for what stands behind the digits and the point asks for an exponent or nothing. -/
theorem matchesExponent_iff :
    (match text with
      | [] => true
      | e :: rest => (e = 'e' || e = 'E') && matchesInteger rest) = true ↔
      ∃ power, Exponent text power := by
  -- Behind the mark the rule for integers applies again, and nothing at all is allowed.
  constructor
  · intro matched
    cases text with
    | nil => exact ⟨none, .absent⟩
    | cons mark rest =>
      simp only [Bool.and_eq_true, Bool.or_eq_true, decide_eq_true_eq] at matched
      obtain ⟨sign, negative, digits, rfl, signed, spelled⟩ := matchesInteger_iff.mp matched.2
      exact ⟨_, .present matched.1 signed spelled⟩
  · rintro ⟨power, scale⟩
    cases scale with
    | absent => rfl
    | present marks signed spelled =>
      simp only [Bool.and_eq_true, Bool.or_eq_true, decide_eq_true_eq]
      exact ⟨marks, matchesInteger_iff.mpr ⟨_, _, _, rfl, signed, spelled⟩⟩

/-- Digits around a point with an exponent are a float, if there are any. -/
theorem matchesFloat_point {sign whole fraction exponent : List Char} {power : Option Int}
    (signed : Sign sign negative) (before : ∀ c ∈ whole, c.isDigit = true)
    (behind : ∀ c ∈ fraction, c.isDigit = true) (filled : whole ≠ [] ∨ fraction ≠ [])
    (scale : Exponent exponent power) :
    matchesFloat (sign ++ (whole ++ '.' :: (fraction ++ exponent))) = true := by
  -- Where each run of digits stops has to be known, since the rule cuts the text there.
  have stops : Stops Char.isDigit ('.' :: (fraction ++ exponent)) := by
    rintro c same
    cases same
    rfl
  have unsigned : Stops isSign (whole ++ '.' :: (fraction ++ exponent)) := by
    cases whole with
    | nil =>
      rintro c same
      cases same
      rfl
    | cons first rest =>
      rintro c same
      cases same
      exact isSign_of_isDigit (before first List.mem_cons_self)
  -- The digits before the point and behind it are cut off as the rule does.
  have front := stops.takeWhile before
  have back := stops.dropWhile before
  have inner := scale.stops.takeWhile behind
  have rest := scale.stops.dropWhile behind
  have matched := matchesExponent_iff.mpr ⟨_, scale⟩
  unfold matchesFloat
  rw [signed.split unsigned]
  simp only [front, back, inner, rest, List.head?_cons, List.tail_cons, if_true, Bool.and_eq_true]
  exact ⟨by simpa using filled, matched⟩

/-- A decimal form matches the rule for floats. -/
theorem DecimalForm.matchesFloat {parts : Parts} (form : DecimalForm text parts) :
    matchesFloat text = true := by
  cases form with
  | mk signed digits scale =>
    -- The digits are whole, around a point, or behind one only.
    cases digits with
    | whole spelled =>
      have front := scale.stops.takeWhile spelled.2
      have back := scale.stops.dropWhile spelled.2
      have matched := matchesExponent_iff.mpr ⟨_, scale⟩
      unfold SpecTrace.matchesFloat
      rw [signed.split (Mantissa.unsigned (.whole spelled) _)]
      simp only [front, back, if_neg scale.no_point, Bool.and_eq_true]
      exact ⟨by simp [spelled.1], matched⟩
    | point spelled behind =>
      rw [List.append_assoc]
      exact matchesFloat_point signed spelled.2 behind (.inl spelled.1) scale
    | fraction spelled =>
      exact matchesFloat_point signed (List.forall_mem_nil _) spelled.2 (.inr spelled.1) scale

/-- Every text begins with a run of digits, which may be empty. -/
theorem exists_run (text : List Char) : ∃ digits rest, text = digits ++ rest ∧
    (∀ c ∈ digits, c.isDigit = true) ∧ text.takeWhile Char.isDigit = digits ∧
    text.dropWhile Char.isDigit = rest :=
  ⟨_, _, List.takeWhile_append_dropWhile.symm,
    fun c member => List.all_eq_true.mp List.all_takeWhile c member, rfl, rfl⟩

/-- The rule for floats asks for a decimal form. -/
theorem matchesFloat_iff : matchesFloat text = true ↔ ∃ parts, DecimalForm text parts := by
  -- The direction from the form is the lemma above; the other one cuts the text as the rule does.
  refine ⟨fun matched => ?_, fun ⟨_, form⟩ => DecimalForm.matchesFloat form⟩
  obtain ⟨sign, signed, same⟩ := exists_sign text
  unfold matchesFloat at matched
  -- The sign and what stands behind it are named, so that the runs of digits can be cut off.
  generalize (Binary64.splitSign text).1 = negative at signed
  generalize (Binary64.splitSign text).2 = unsigned at same matched
  obtain ⟨whole, behindWhole, both, before, front, back⟩ := exists_run unsigned
  simp only [front, back, Bool.and_eq_true] at matched
  obtain ⟨mantissa, exponent⟩ := matched
  obtain ⟨power, scale⟩ := matchesExponent_iff.mp exponent
  subst same
  rw [both]
  by_cases point : behindWhole.head? = some '.'
  · -- Behind the point another run follows, and one of the two is not empty.
    obtain ⟨tail, rfl⟩ := List.head?_eq_some_iff.mp point
    obtain ⟨fraction, rest, parts, behind, inner, last⟩ := exists_run tail
    rw [if_pos point, List.tail_cons, last] at scale
    rw [List.tail_cons, inner] at mantissa
    rw [parts]
    by_cases empty : whole = []
    · subst empty
      have filled : fraction ≠ [] := by simpa using mantissa
      have form := DecimalForm.mk signed (.fraction ⟨filled, behind⟩) scale
      exact ⟨_, form⟩
    · have form := DecimalForm.mk signed (.point ⟨empty, before⟩ behind) scale
      rw [List.append_assoc whole] at form
      exact ⟨_, form⟩
  · rw [if_neg point] at scale
    have filled : whole ≠ [] := by simpa [point] using mantissa
    exact ⟨_, .mk signed (.whole ⟨filled, before⟩) scale⟩

/-- Digits with an optional sign are a decimal form. -/
theorem decimalForm_of_digits {sign : List Char} (signed : Sign sign negative)
    (spelled : IsDigits digits) : DecimalForm (sign ++ digits) ⟨negative, digits, [], none⟩ := by
  have form := DecimalForm.mk signed (.whole spelled) .absent
  rwa [List.append_nil] at form

/-- Digits with an optional sign are read as an integer if 64 bits hold it, otherwise as the nearest
binary64 number. -/
theorem read?_digits {sign : List Char} (signed : Sign sign negative) (spelled : IsDigits digits) :
    JsonNumber.read? (sign ++ digits) = Parts.value? ⟨negative, digits, [], none⟩ := by
  -- The reader of integers finds the same digits, with the same sign.
  have value := digits_of_read (by decide) spelled.1 spelled.read
  have integer := (readInteger?_iff (by decide)).mpr ⟨_, _, _, _, rfl, signed, value, rfl⟩
  rw [read?_integer integer (decimalForm_of_digits signed spelled).read, Parts.value?]
  simp only [Parts.IsInteger, true_and]
  rfl

/-- A plus in front of digits makes no difference. -/
theorem readDecimal?_digits {sign : List Char} (signed : Sign sign negative)
    (spelled : IsDigits digits) :
    readDecimal? (sign ++ digits) =
      (Parts.value? ⟨negative, digits, [], none⟩).map Scalar.number := by
  have matched := matchesInteger_iff.mpr ⟨sign, negative, digits, rfl, signed, spelled⟩
  have unsigned : digits.head? ≠ some '+' := fun plus =>
    absurd (spelled.unsigned '+' plus) (by decide)
  unfold readDecimal?
  rw [if_pos matched]
  congr 1
  -- The plus is dropped; without one the text stays as it is.
  cases signed with
  | absent =>
    rw [List.nil_append, if_neg unsigned]
    exact read?_digits .absent spelled
  | plus => exact read?_digits .absent spelled
  | minus => exact read?_digits .minus spelled

/-- What is read as a decimal integer is digits with an optional sign. -/
theorem digits_of_readDecimal? {value : Scalar} (read : readDecimal? text = some value) :
    ∃ sign negative digits, text = sign ++ digits ∧ Sign sign negative ∧ IsDigits digits := by
  unfold readDecimal? at read
  split at read
  · rename_i matched
    exact matchesInteger_iff.mp matched
  · cases read

/-- A number in another radix is read if 64 bits with a sign hold it. -/
theorem readRadix?_iff {mark : Char} {value : Scalar} (small : radix ≤ 16) :
    readRadix? ['0', mark] radix text = some value ↔
      ∃ sign negative digits number, text = '0' :: mark :: (sign ++ digits) ∧ Sign sign negative ∧
        Digits radix digits number ∧
        (-2 ^ 63 ≤ withSign negative number ∧ withSign negative number < 2 ^ 63) ∧
        value = .number (.int (withSign negative number)) := by
  -- The limits of 64 bits are spelled as powers of two on both sides.
  have fits : ∀ i : Int, inInt64 i = true ↔ -2 ^ 63 ≤ i ∧ i < 2 ^ 63 := by
    intro i
    have power : ((Nat.pow 2 63 : Nat) : Int) = 2 ^ 63 := by decide
    simp only [inInt64, power, Bool.and_eq_true, decide_eq_true_eq]
  unfold readRadix?
  constructor
  · intro read
    split at read
    · -- The mark is cut off, and an integer has to stand behind it.
      rename_i marked
      obtain ⟨rest, rfl⟩ := List.isPrefixOf_iff_prefix.mp marked
      simp only [List.length_cons, List.length_nil, List.cons_append, List.nil_append,
        List.drop_succ_cons, List.drop_zero] at read ⊢
      split at read
      · rename_i i integer
        obtain ⟨sign, negative, digits, number, rfl, signed, spelled, rfl⟩ :=
          (readInteger?_iff small).mp integer
        split at read
        · rename_i inside
          cases read
          exact ⟨sign, negative, digits, number, rfl, signed, spelled, (fits _).mp inside, rfl⟩
        · cases read
      · cases read
    · cases read
  · rintro ⟨sign, negative, digits, number, rfl, signed, spelled, inside, rfl⟩
    have integer := (readInteger?_iff small).mpr ⟨sign, _, _, _, rfl, signed, spelled, rfl⟩
    have marked : ['0', mark].isPrefixOf ('0' :: mark :: (sign ++ digits)) = true := by simp
    rw [if_pos marked]
    simp only [List.length_cons, List.length_nil, List.drop_succ_cons, List.drop_zero, integer,
      if_pos ((fits _).mpr inside)]

/-- No marked radix has more digits than there are letters for. -/
theorem radix_le_of_mem_marks {mark : Char} (known : (mark, radix) ∈ marks) : radix ≤ 16 := by
  have small : ∀ mark ∈ marks, mark.2 ≤ 16 := by decide
  exact small _ known

/-- What is read behind the mark of a radix is a number in that radix. -/
theorem marked_of_readRadix? {mark : Char} {value : Scalar} (known : (mark, radix) ∈ marks)
    (read : readRadix? ['0', mark] radix text = some value) :
    ∃ sign i, Marked sign text i ∧ value = .number (.int i) := by
  obtain ⟨sign, negative, digits, number, rfl, signed, spelled, fits, rfl⟩ :=
    (readRadix?_iff (radix_le_of_mem_marks known)).mp read
  exact ⟨sign, _, .mk known signed spelled fits, rfl⟩

/-- A number in another radix is no decimal form. -/
theorem Marked.not_decimalForm {sign : List Char} {parts : Parts} (marked : Marked sign text i) :
    ¬DecimalForm text parts := by
  intro form
  cases marked with
  | mk known _ _ _ =>
    -- The mark of the radix is no character of a decimal form.
    have mark := form.chars _ (List.mem_cons_of_mem _ List.mem_cons_self)
    simp only [marks, List.mem_cons, Prod.mk.injEq, List.not_mem_nil, or_false] at known
    rcases known with ⟨rfl, rfl⟩ | ⟨rfl, rfl⟩ <;> exact absurd mark (by decide)

/-! ### Resolving -/

/-- What a text that is no word is read as, if it is a number. -/
def number? (text : List Char) : Option Scalar :=
  readDecimal? text <|> readRadix? ['0', 'o'] 8 text <|> readRadix? ['0', 'x'] 16 text <|>
    (if matchesFloat text then readFloat? text else none)

/-- A number in another radix is read. -/
theorem Marked.number? {sign : List Char} (marked : Marked sign text i) :
    number? text = some (.number (.int i)) := by
  -- The rules before the right one do not apply.
  have notDecimal : readDecimal? text = none := by
    refine Option.eq_none_iff_forall_ne_some.mpr fun value read => ?_
    obtain ⟨sign, negative, digits, rfl, signed, spelled⟩ := digits_of_readDecimal? read
    exact marked.not_decimalForm (decimalForm_of_digits signed spelled)
  unfold CoreSchema.number?
  rw [notDecimal]
  cases marked with
  | mk known signed spelled fits =>
    simp only [marks, List.mem_cons, Prod.mk.injEq, List.not_mem_nil, or_false] at known
    rcases known with ⟨rfl, rfl⟩ | ⟨rfl, rfl⟩
    · have read := (@readRadix?_iff _ 8 'o' _ (by decide)).mpr
        ⟨_, _, _, _, rfl, signed, spelled, fits, rfl⟩
      rw [read]
      rfl
    · have read := (@readRadix?_iff _ 16 'x' _ (by decide)).mpr
        ⟨_, _, _, _, rfl, signed, spelled, fits, rfl⟩
      have notOctal : ∀ rest, readRadix? ['0', 'o'] 8 ('0' :: 'x' :: rest) = none := fun _ => rfl
      rw [notOctal, read]
      rfl

/-- An integer is read. -/
theorem Integer.number? (integer : Integer text i) : number? text = some (.number (.int i)) := by
  cases integer with
  | marked spelled => exact spelled.number?
  | decimal signed spelled fits =>
    unfold CoreSchema.number?
    rw [readDecimal?_digits signed spelled, Parts.value?, if_pos fits]
    rfl

/-- A decimal form is read as the nearest number by the rule for floats. -/
theorem DecimalForm.readFloat? {parts : Parts} (form : DecimalForm text parts) :
    readFloat? text = parts.binary.finite?.map fun x => .number (.float x) := by
  unfold SpecTrace.readFloat?
  rw [form.read, Option.bind_some]

/-- A decimal form is read as the nearest number, if it is not read as an integer. -/
theorem DecimalForm.number? {parts : Parts} (form : DecimalForm text parts) :
    number? text = ((readDecimal? text).or
      (parts.binary.finite?.map fun x => .number (.float x))) := by
  -- A decimal form has no mark of a radix, so only the first rule and the last one are left.
  have noRadix : ∀ {mark radix}, (mark, radix) ∈ marks →
      readRadix? ['0', mark] radix text = none := by
    intro mark radix known
    refine Option.eq_none_iff_forall_ne_some.mpr fun value read => ?_
    obtain ⟨_, _, marked, _⟩ := marked_of_readRadix? known read
    exact marked.not_decimalForm form
  unfold CoreSchema.number?
  rw [noRadix (by decide), noRadix (by decide), if_pos (DecimalForm.matchesFloat form),
    DecimalForm.readFloat? form]
  cases readDecimal? text <;> rfl

/-- A decimal form that is no integer is read as the nearest number. -/
theorem Floating.number? {x : Finite64} (notInteger : ∀ i, ¬Integer text i)
    (floating : Floating text x) : number? text = some (.number (.float x)) := by
  obtain ⟨parts, form, finite⟩ := floating
  rw [DecimalForm.number? form, finite]
  -- Bare digits are read by the first rule, and everything else by the last.
  cases decimal : readDecimal? text with
  | none => rfl
  | some value =>
    obtain ⟨sign, negative, digits, rfl, signed, spelled⟩ := digits_of_readDecimal? decimal
    -- What the first rule reads is no integer of 64 bits, so it is rounded too.
    have large : ¬Parts.IsInteger ⟨negative, digits, [], none⟩ := fun fits =>
      notInteger _ (.decimal signed spelled fits)
    have same : (Parts.binary ⟨negative, digits, [], none⟩) = .finite x := by
      have read := (decimalForm_of_digits signed spelled).read
      rw [form.read, finite, Option.some.injEq] at read
      exact read.symm
    rw [readDecimal?_digits signed spelled, Parts.value?, if_neg large, same] at decimal
    exact decimal.symm

/-- The finite numbers among the binary64 values. -/
theorem finite?_eq_some {value : Binary64} {x : Finite64} :
    value.finite? = some x ↔ value = .finite x := by
  cases value <;> simp [Binary64.finite?]

/-- What is read by the rule for decimal integers is one, or it is too large and a float. -/
theorem cases_of_readDecimal? {value : Scalar} (read : readDecimal? text = some value) :
    (∃ i, Integer text i ∧ value = .number (.int i)) ∨
      ∃ x, Floating text x ∧ value = .number (.float x) := by
  -- What fits is an integer, and what does not is rounded.
  obtain ⟨sign, negative, digits, rfl, signed, spelled⟩ := digits_of_readDecimal? read
  rw [readDecimal?_digits signed spelled, Parts.value?] at read
  split at read
  · rename_i fits
    cases read
    exact .inl ⟨_, .decimal signed spelled fits, rfl⟩
  · obtain ⟨_, float, rfl⟩ := Option.map_eq_some_iff.mp read
    obtain ⟨x, finite, rfl⟩ := Option.map_eq_some_iff.mp float
    exact .inr ⟨x, ⟨_, decimalForm_of_digits signed spelled, finite?_eq_some.mp finite⟩, rfl⟩

/-- What is read as a number is an integer, a number with a sign behind its mark, or a float. -/
theorem cases_of_number? {value : Scalar} (read : number? text = some value) :
    (∃ i, (Integer text i ∨ Signed text i) ∧ value = .number (.int i)) ∨
      ∃ x, Floating text x ∧ value = .number (.float x) := by
  have radix : ∀ {mark radix}, (mark, radix) ∈ marks →
      readRadix? ['0', mark] radix text = some value →
      ∃ i, (Integer text i ∨ Signed text i) ∧ value = .number (.int i) := by
    intro mark radix known read
    obtain ⟨sign, i, marked, rfl⟩ := marked_of_readRadix? known read
    -- The schema has the number exactly if no sign stands behind the mark.
    by_cases unsigned : sign = []
    · subst unsigned
      exact ⟨i, .inl (.marked marked), rfl⟩
    · exact ⟨i, .inr ⟨sign, unsigned, marked⟩, rfl⟩
  unfold CoreSchema.number? at read
  simp only [Option.orElse_eq_orElse, Option.orElse_eq_or, Option.or_eq_some_iff] at read
  -- The four rules are tried one after the other.
  rcases read with decimal | ⟨_, octal | ⟨_, hexadecimal | ⟨_, float⟩⟩⟩
  · exact (cases_of_readDecimal? decimal).imp_left fun ⟨i, integer, same⟩ => ⟨i, .inl integer, same⟩
  · exact .inl (radix (by decide) octal)
  · exact .inl (radix (by decide) hexadecimal)
  · split at float
    · rename_i matched
      obtain ⟨parts, form⟩ := matchesFloat_iff.mp matched
      rw [DecimalForm.readFloat? form] at float
      obtain ⟨x, finite, rfl⟩ := Option.map_eq_some_iff.mp float
      exact .inr ⟨x, ⟨parts, form, finite?_eq_some.mp finite⟩, rfl⟩
    · cases float

/-- The characters of a decimal form are letters, digits, signs and points. -/
theorem chars_of_decimalForm {parts : Parts} (form : DecimalForm text parts) :
    ∀ c ∈ text, c.isAlphanum = true ∨ c ∈ ['-', '+', '.'] := by
  intro c member
  rcases form.chars c member with digit | mark
  · exact .inl (by simp [Char.isAlphanum, digit])
  · simp only [List.mem_cons, List.not_mem_nil, or_false] at mark
    rcases mark with rfl | rfl | rfl | rfl | rfl <;> decide

/-- So are those of a number in another radix. -/
theorem Marked.chars {sign : List Char} (marked : Marked sign text i) :
    ∀ c ∈ text, c.isAlphanum = true ∨ c ∈ ['-', '+', '.'] := by
  intro c member
  obtain ⟨known, signed, spelled, _⟩ := marked
  simp only [marks, List.mem_cons, Prod.mk.injEq, List.not_mem_nil, or_false] at known
  simp only [List.mem_cons, List.mem_append] at member
  -- The character is the zero, the mark, the sign, or one of the digits.
  rcases member with rfl | rfl | inSign | inDigits
  · exact .inl rfl
  · rcases known with ⟨rfl, _⟩ | ⟨rfl, _⟩ <;> exact .inl rfl
  · cases signed with
    | absent => cases inSign
    | plus =>
      obtain rfl := List.mem_singleton.mp inSign
      exact .inr (by decide)
    | minus =>
      obtain rfl := List.mem_singleton.mp inSign
      exact .inr (by decide)
  · exact .inl (spelled.chars c inDigits)

/-- The characters of a number are letters, digits, signs and points. -/
theorem chars_of_number? {value : Scalar} (read : number? text = some value) :
    ∀ c ∈ text, c.isAlphanum = true ∨ c ∈ ['-', '+', '.'] := by
  -- A number is an integer of either kind, one with a sign behind its mark, or a float.
  rcases cases_of_number? read with ⟨i, integer | ⟨_, _, marked⟩, _⟩ | ⟨x, ⟨_, form, _⟩, _⟩
  · cases integer with
    | decimal signed spelled _ => exact chars_of_decimalForm (decimalForm_of_digits signed spelled)
    | marked plain => exact plain.chars
  · exact marked.chars
  · exact chars_of_decimalForm form

/-- Words are looked up before numbers are read. -/
theorem resolvePlain_eq (text : List Char) :
    resolvePlain text =
      if String.ofList text ∈ nulls then .null
      else if String.ofList text ∈ ["true", "True", "TRUE"] then .bool true
      else if String.ofList text ∈ ["false", "False", "FALSE"] then .bool false
      else (number? text).getD (.string (String.ofList text)) :=
  rfl

/-- A text that is no word resolves to a number, if it is one. -/
theorem resolvePlain_of_not_word (notNull : String.ofList text ∉ nulls)
    (notBool : ∀ value, (String.ofList text, value) ∉ booleans) :
    resolvePlain text = (number? text).getD (.string (String.ofList text)) := by
  -- The three kinds of words are tried before any number.
  have notTrue : String.ofList text ∉ ["true", "True", "TRUE"] := by
    have noWord := notBool true
    simpa [booleans] using noWord
  have notFalse : String.ofList text ∉ ["false", "False", "FALSE"] := by
    have noWord := notBool false
    simpa [booleans] using noWord
  rw [resolvePlain_eq, if_neg notNull, if_neg notTrue, if_neg notFalse]

/-- A word has no digit in it. -/
theorem not_word_of_digit (digit : ∃ c ∈ text, c.isDigit = true) :
    String.ofList text ∉ nulls ∧ ∀ value, (String.ofList text, value) ∉ booleans := by
  obtain ⟨c, member, digit⟩ := digit
  -- A word whose characters are no digits differs from the text at the digit.
  have other : ∀ word : String, (word.toList.all fun c => !c.isDigit) = true →
      String.ofList text ≠ word := by
    rintro word noDigits rfl
    have notDigit := List.all_eq_true.mp noDigits c (by rwa [String.toList_ofList])
    rw [digit] at notDigit
    cases notDigit
  constructor
  · intro known
    have letters : ∀ word ∈ nulls, (word.toList.all fun c => !c.isDigit) = true := by decide
    exact other _ (letters _ known) rfl
  · intro value known
    have letters : ∀ word ∈ booleans, (word.1.toList.all fun c => !c.isDigit) = true := by decide
    exact other _ (letters _ known) rfl

/-- A number in another radix has a digit, the zero in front of its mark. -/
theorem Marked.digit {sign : List Char} (marked : Marked sign text i) :
    ∃ c ∈ text, c.isDigit = true := by
  cases marked
  exact ⟨'0', List.mem_cons_self, rfl⟩

/-- Digits have a digit. -/
theorem digit_of_isDigits (spelled : IsDigits text) : ∃ c ∈ text, c.isDigit = true := by
  obtain ⟨c, rest, rfl, digit⟩ := spelled.first
  exact ⟨c, List.mem_cons_self, digit⟩

/-- A decimal form has a digit. -/
theorem DecimalForm.digit {parts : Parts} (form : DecimalForm text parts) :
    ∃ c ∈ text, c.isDigit = true := by
  cases form with
  | @mk sign mantissa exponent _ _ _ _ _ digits _ =>
    -- In each of its three shapes a mantissa has a digit.
    have inside : ∃ c ∈ mantissa, c.isDigit = true := by
      cases digits with
      | whole spelled => exact digit_of_isDigits spelled
      | point spelled _ =>
        obtain ⟨c, member, digit⟩ := digit_of_isDigits spelled
        exact ⟨c, List.mem_append_left _ member, digit⟩
      | fraction spelled =>
        obtain ⟨c, member, digit⟩ := digit_of_isDigits spelled
        exact ⟨c, List.mem_cons_of_mem _ member, digit⟩
    obtain ⟨c, member, digit⟩ := inside
    exact ⟨c, List.mem_append_right _ (List.mem_append_left _ member), digit⟩

/-- An integer has a digit. -/
theorem Integer.digit (integer : Integer text i) : ∃ c ∈ text, c.isDigit = true := by
  cases integer with
  | decimal signed spelled _ => exact DecimalForm.digit (decimalForm_of_digits signed spelled)
  | marked spelled => exact spelled.digit

/-- A number is none of the words, and resolves to what is read. -/
theorem resolvePlain_of_digit (digit : ∃ c ∈ text, c.isDigit = true) :
    resolvePlain text = (number? text).getD (.string (String.ofList text)) := by
  obtain ⟨notNull, notBool⟩ := not_word_of_digit digit
  exact resolvePlain_of_not_word notNull notBool

/-- A text that has no sign behind a mark resolves to what it stands for. -/
theorem Resolves.resolvePlain {value : Scalar} (resolves : Resolves text value)
    (unsigned : ∀ i, ¬Signed text i) : resolvePlain text = value := by
  cases resolves with
  | null known => rw [resolvePlain_eq, if_pos known]
  | @bool value known =>
    -- Each of the six words is looked up.
    have lookup : ∀ word ∈ booleans, SpecTrace.resolvePlain word.1.toList = .bool word.2 := by
      decide
    have found := lookup _ known
    rwa [String.toList_ofList] at found
  -- Numbers have a digit, so no word comes before them.
  | integer spelled => rw [resolvePlain_of_digit spelled.digit, spelled.number?]; rfl
  | floating notInteger spelled =>
    have read := spelled.number? notInteger
    obtain ⟨parts, form, _⟩ := spelled
    rw [resolvePlain_of_digit (DecimalForm.digit form), read]; rfl
  | string notNull notBool notInteger notFloating =>
    -- What would be read as a number is one of the three kinds, and the text is none of them.
    have noNumber : CoreSchema.number? text = none := by
      refine Option.eq_none_iff_forall_ne_some.mpr fun value read => ?_
      rcases cases_of_number? read with ⟨i, integer | signed, _⟩ | ⟨x, floating, _⟩
      · exact notInteger i integer
      · exact unsigned i signed
      · exact notFloating x floating
    rw [resolvePlain_of_not_word notNull notBool, noNumber]; rfl

/-- Every text stands for something. -/
theorem exists_resolves (text : List Char) : ∃ value, Resolves text value := by
  -- The cases are tried in the order of the schema.
  by_cases isNull : String.ofList text ∈ nulls
  · exact ⟨_, .null isNull⟩
  by_cases isBool : ∃ value, (String.ofList text, value) ∈ booleans
  · obtain ⟨value, known⟩ := isBool
    exact ⟨_, .bool known⟩
  by_cases isInteger : ∃ i, Integer text i
  · obtain ⟨i, integer⟩ := isInteger
    exact ⟨_, .integer integer⟩
  by_cases isFloating : ∃ x, Floating text x
  · obtain ⟨x, floating⟩ := isFloating
    exact ⟨_, .floating (not_exists.mp isInteger) floating⟩
  exact ⟨_, .string isNull (not_exists.mp isBool) (not_exists.mp isInteger)
    (not_exists.mp isFloating)⟩

/-- A number with a sign behind its mark is no integer of the schema. -/
theorem Signed.not_integer (signed : Signed text i) (other : Int) : ¬Integer text other := by
  -- An integer is a decimal form, which has no mark, or it is marked and has a digit behind its
  -- mark.
  obtain ⟨sign, present, marked⟩ := signed
  intro integer
  cases integer with
  | decimal signed spelled _ => exact marked.not_decimalForm (decimalForm_of_digits signed spelled)
  | marked plain =>
    cases plain with
    | @mk mark radix number digits negative known _ spelled fits =>
      have small := radix_le_of_mem_marks known
      -- Behind the mark one of them has a sign and the other a digit.
      have unsigned := unsigned_of_read small (spelled.read small)
      generalize rest : '0' :: mark :: ([] ++ digits) = whole at marked
      cases marked with
      | mk _ signed _ _ =>
        cases rest
        cases signed with
        | absent => exact present rfl
        | plus => exact absurd (unsigned '+' rfl) (by decide)
        | minus => exact absurd (unsigned '-' rfl) (by decide)

/-- A number with a sign behind its mark is a string of the schema. -/
theorem Signed.resolves (signed : Signed text i) :
    Resolves text (.string (String.ofList text)) := by
  -- A sign behind the mark rules out every other kind of scalar, so the string is left.
  obtain ⟨sign, present, marked⟩ := signed
  obtain ⟨notNull, notBool⟩ := not_word_of_digit marked.digit
  have notFloating : ∀ x, ¬Floating text x := by
    rintro x ⟨parts, form, _⟩
    exact marked.not_decimalForm form
  exact .string notNull notBool (Signed.not_integer ⟨sign, present, marked⟩) notFloating

/-- A number with a sign behind its mark is read as an integer. -/
theorem Signed.resolvePlain (signed : Signed text i) : resolvePlain text = .number (.int i) := by
  obtain ⟨sign, present, marked⟩ := signed
  rw [resolvePlain_of_digit marked.digit, marked.number?]
  rfl

/-- Plain scalars resolve by the core schema, but for the numbers in another radix that have a sign
behind the mark: they are strings of the schema, and are read as integers. -/
theorem plain_scalars_resolve_by_schema_iff (text : List Char) :
    ((∀ value, resolvePlain text = value ↔ Resolves text value) ↔ ∀ i, ¬Signed text i) ∧
      ∀ i, Signed text i →
        resolvePlain text = .number (.int i) ∧ Resolves text (.string (String.ofList text)) := by
  refine ⟨⟨fun agrees i signed => ?_, fun unsigned value => ⟨?_, ?_⟩⟩,
    fun i signed => ⟨signed.resolvePlain, signed.resolves⟩⟩
  · -- A signed number would be both an integer and a string.
    have string := (agrees _).mpr signed.resolves
    rw [signed.resolvePlain] at string
    cases string
  · rintro rfl
    -- What the text stands for is what it resolves to.
    obtain ⟨value, resolves⟩ := exists_resolves text
    rwa [resolves.resolvePlain unsigned]
  · exact fun resolves => resolves.resolvePlain unsigned

/-- Behind the marks of both radices a sign is read, which makes strings integers. -/
theorem signed_numerals_are_read :
    (Resolves "0o+7".toList (.string "0o+7") ∧
        readDocument .yaml "0o+7" = .ok (.scalar (.number (.int 7)) ⟨0, 4⟩)) ∧
      Resolves "0x-1F".toList (.string "0x-1F") ∧
        readDocument .yaml "0x-1F" = .ok (.scalar (.number (.int (-31))) ⟨0, 5⟩) := by
  -- The digits spell the numbers in their radix, and the sign stands behind the mark.
  have seven : Digits 8 ['7'] 7 := digits_of_read (by decide) (by decide) (by decide)
  have octal : Marked ['+'] "0o+7".toList 7 := .mk (by decide) .plus seven (by decide)
  have thirtyOne : Digits 16 ['1', 'F'] 31 := digits_of_read (by decide) (by decide) (by decide)
  have hexadecimal : Marked ['-'] "0x-1F".toList (-31) :=
    .mk (by decide) .minus thirtyOne (by decide)
  refine ⟨⟨?_, by rfl⟩, ?_, by rfl⟩
  · exact Signed.resolves ⟨['+'], by decide, octal⟩
  · exact Signed.resolves ⟨['-'], by decide, hexadecimal⟩

end SpecTrace.CoreSchema
