import SpecTrace.Proofs.Yaml.CoreSchema
import SpecTrace.Yaml.PlainScalar

/-! A plain scalar that goes on on a further line is a string. -/

namespace SpecTrace

variable {text : List Char} {ch : Char}

/-- A space or a line feed, one of which stands where lines were folded. -/
def IsJoint (ch : Char) : Prop :=
  ch = ' ' ∨ ch = '\n'

/-- A text with a joint in it is a string. -/
theorem resolvePlain_joint (joint : IsJoint ch) (member : ch ∈ text) :
    resolvePlain text = .string (String.ofList text) := by
  -- No word with a meaning of its own has a joint in it.
  have notWord : ∀ word : String,
      (!word.toList.contains ' ' && !word.toList.contains '\n') = true →
      String.ofList text ≠ word := by
    rintro word unbroken rfl
    rw [String.toList_ofList] at unbroken
    simp only [Bool.and_eq_true, Bool.not_eq_true', List.contains_eq_mem,
      decide_eq_false_iff_not] at unbroken
    rcases joint with rfl | rfl
    · exact unbroken.1 member
    · exact unbroken.2 member
  have notNull : String.ofList text ∉ CoreSchema.nulls := by
    have unbroken : ∀ word ∈ CoreSchema.nulls,
        (!word.toList.contains ' ' && !word.toList.contains '\n') = true := by decide
    exact fun known => notWord _ (unbroken _ known) rfl
  have notBool : ∀ value, (String.ofList text, value) ∉ CoreSchema.booleans := by
    have unbroken : ∀ word ∈ CoreSchema.booleans,
        (!word.1.toList.contains ' ' && !word.1.toList.contains '\n') = true := by decide
    exact fun value known => notWord _ (unbroken _ known) rfl
  -- Numbers have no blanks among their characters.
  have notNumber : CoreSchema.number? text = none := by
    refine Option.eq_none_iff_forall_ne_some.mpr fun value read => ?_
    have allowed := CoreSchema.chars_of_number? read ch member
    rcases joint with rfl | rfl <;> exact absurd allowed (by decide)
  rw [CoreSchema.resolvePlain_of_not_word notNull notBool, notNumber]
  rfl

namespace Yaml

/-- What a further line adds to a plain scalar begins with a joint. -/
theorem foldedBreak_joint (blankLines : Nat) : ∃ ch ∈ foldedBreak blankLines, IsJoint ch := by
  unfold foldedBreak
  split
  · exact ⟨' ', by simp, .inl rfl⟩
  · rename_i more
    exact ⟨'\n', by simpa using more, .inr rfl⟩

/-- A plain scalar goes on with a joint, or not at all. -/
theorem readContinuation_joint {margin bound : Nat} {seen text : List Char} {c after : Cursor}
    (read : readContinuation margin bound seen c = .ok (text, after)) :
    (text = seen ∧ after = c) ∨ ∃ ch ∈ text, IsJoint ch := by
  -- Every line that is added only makes the text longer.
  have grows : ∀ {bound : Nat} {seen text : List Char} {c after : Cursor},
      readContinuation margin bound seen c = .ok (text, after) → ∃ more, text = seen ++ more := by
    -- By induction on the lines that are added.
    intro bound
    induction bound with
    | zero =>
      intro seen text c after read
      cases read
      exact ⟨[], (List.append_nil _).symm⟩
    | succ bound ih =>
      intro seen text c after read
      unfold readContinuation at read
      split at read
      · cases read
        exact ⟨[], (List.append_nil _).symm⟩
      · dsimp only at read
        split at read
        · cases read
          exact ⟨[], (List.append_nil _).symm⟩
        · split at read
          · exact absurd read (by simp [Cursor.fail])
          · cases read
            exact ⟨_, List.append_assoc _ _ _⟩
          · obtain ⟨more, longer⟩ := ih read
            exact ⟨_, by rw [longer, List.append_assoc, List.append_assoc]⟩
  -- The first further line decides: either there is none, or it brings a joint along.
  cases bound with
  | zero =>
    cases read
    exact .inl ⟨rfl, rfl⟩
  | succ bound =>
    unfold readContinuation at read
    split at read
    · cases read
      exact .inl ⟨rfl, rfl⟩
    · rename_i nextLine skipped
      dsimp only at read
      obtain ⟨ch, folded, joint⟩ := foldedBreak_joint nextLine.skipBlankLines.2
      split at read
      · cases read
        exact .inl ⟨rfl, rfl⟩
      · -- The joint stays in the text, whatever is added behind it.
        refine .inr ⟨ch, ?_, joint⟩
        split at read
        · exact absurd read (by simp [Cursor.fail])
        · cases read
          exact List.mem_append_left _ (List.mem_append_right _ folded)
        · obtain ⟨more, rfl⟩ := grows read
          exact List.mem_append_left _ (List.mem_append_left _ (List.mem_append_right _ folded))

end Yaml

end SpecTrace
