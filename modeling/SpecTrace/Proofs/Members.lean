import SpecTrace.Json.Value

/-! Looking up and storing members of an ordered list of keys with values. -/

namespace SpecTrace

variable {α β : Type}

@[simp] theorem lookupMember?_nil (key : String) : lookupMember? ([] : List (String × α)) key = none :=
  rfl

/-- The first member decides if it has the key, otherwise the others do. -/
theorem lookupMember?_cons (name : String) (value : α) (rest : List (String × α)) (key : String) :
    lookupMember? ((name, value) :: rest) key =
      if name = key then some value else lookupMember? rest key := by
  by_cases same : name = key <;> simp [lookupMember?, same]

/-- Behind other members, a member is found unless one of them has its key. -/
theorem lookupMember?_append (front back : List (String × α)) (key : String) :
    lookupMember? (front ++ back) key = (lookupMember? front key).or (lookupMember? back key) := by
  -- The first member with the key is in front or not at all there.
  induction front with
  | nil => simp
  | cons member rest ih =>
    rcases member with ⟨name, value⟩
    by_cases same : name = key <;> simp [lookupMember?_cons, same, ih]

/-- A value that is found stands among the members. -/
theorem lookupMember?_mem {members : List (String × α)} {key : String} {value : α}
    (found : lookupMember? members key = some value) : (key, value) ∈ members := by
  -- The search stops at a member that has the key.
  induction members with
  | nil => simp at found
  | cons member rest ih =>
    rcases member with ⟨name, held⟩
    rw [lookupMember?_cons] at found
    split at found
    · rename_i same
      simp only [Option.some.injEq] at found
      simp [same, found]
    · exact List.mem_cons_of_mem _ (ih found)

/-- Where no key repeats, every member is found under its key. -/
theorem lookupMember?_of_mem {members : List (String × α)} (keys : (members.map Prod.fst).Nodup)
    {key : String} {value : α} (member : (key, value) ∈ members) :
    lookupMember? members key = some value := by
  -- The search stops at the first member with the key, which is the member itself, as no key
  -- repeats.
  induction members with
  | nil => cases member
  | cons first rest ih =>
    rcases first with ⟨name, held⟩
    obtain ⟨alone, others⟩ := List.nodup_cons.mp keys
    rw [lookupMember?_cons]
    rcases List.mem_cons.mp member with here | later
    · cases here
      simp
    · -- The first key is not the one of a later member.
      have different : name ≠ key := by
        intro same
        exact alone (List.mem_map.mpr ⟨(key, value), later, same.symm⟩)
      rw [if_neg different, ih others later]

/-- Members with the same keys in the same order, none repeated, are told apart by what is found. -/
theorem eq_of_lookupMember?_eq {members others : List (String × α)}
    (keys : members.map Prod.fst = others.map Prod.fst) (once : (members.map Prod.fst).Nodup)
    (same : ∀ key, lookupMember? members key = lookupMember? others key) : members = others := by
  refine List.ext_getElem (by simpa using congrArg List.length keys) fun index here there => ?_
  -- At each place the keys agree, and the values are what is found under that key.
  have key : members[index].1 = others[index].1 := by
    simpa [here, there] using congrArg (fun names => names[index]?) keys
  have value : lookupMember? members members[index].1 = some members[index].2 :=
    lookupMember?_of_mem once (List.getElem_mem here)
  have other : lookupMember? others others[index].1 = some others[index].2 :=
    lookupMember?_of_mem (keys ▸ once) (List.getElem_mem there)
  rw [same, key, other] at value
  exact Prod.ext key (Option.some.inj value).symm

/-- A key is found exactly if it is one of the keys. -/
theorem lookupMember?_isSome_iff {members : List (String × α)} {key : String} :
    (lookupMember? members key).isSome ↔ key ∈ members.map Prod.fst := by
  -- By induction; the first member has the key, or it does not matter.
  induction members with
  | nil => simp
  | cons member rest ih =>
    rcases member with ⟨name, value⟩
    by_cases same : name = key
    · simp [lookupMember?_cons, same]
    · simp [lookupMember?_cons, same, ih, Ne.symm same]

/-- What was stored under a key is found there. -/
@[simp] theorem lookupMember?_insertMember_self (members : List (String × α)) (key : String)
    (value : α) : lookupMember? (insertMember members key value) key = some value := by
  -- The search passes over the same members as storing does, and both stop at the same one.
  induction members with
  | nil => simp [insertMember, lookupMember?_cons]
  | cons member rest ih =>
    rcases member with ⟨name, held⟩
    by_cases same : name = key <;> simp [insertMember, lookupMember?_cons, same, ih]

/-- Storing under a key leaves what is found under other keys. -/
theorem lookupMember?_insertMember_ne {members : List (String × α)} {key other : String}
    (different : other ≠ key) (value : α) :
    lookupMember? (insertMember members key value) other = lookupMember? members other := by
  induction members with
  | nil => simp [insertMember, lookupMember?_cons, Ne.symm different]
  | cons member rest ih =>
    rcases member with ⟨name, held⟩
    -- A member that is replaced has the key, so the search passes over it both times.
    by_cases same : name = key
    · subst same
      simp [insertMember, lookupMember?_cons, Ne.symm different]
    · simp [insertMember, lookupMember?_cons, same, ih]

/-- A key that is there keeps its place when its value is replaced. -/
theorem insertMember_keys_of_mem {members : List (String × α)} {key : String}
    (present : key ∈ members.map Prod.fst) (value : α) :
    (insertMember members key value).map Prod.fst = members.map Prod.fst := by
  -- Storing stops at the member that has the key and replaces its value only.
  induction members with
  | nil => simp at present
  | cons member rest ih =>
    rcases member with ⟨name, held⟩
    by_cases same : name = key
    · simp [insertMember, same]
    · -- The key comes later, and the first member stays.
      have below : key ∈ rest.map Prod.fst := by simpa [Ne.symm same] using present
      simp [insertMember, same, ih below]

/-- A new key comes last. -/
theorem insertMember_of_not_mem {members : List (String × α)} {key : String}
    (absent : key ∉ members.map Prod.fst) (value : α) :
    insertMember members key value = members ++ [(key, value)] := by
  -- No member has the key, so storing goes on to the end.
  induction members with
  | nil => rfl
  | cons member rest ih =>
    rcases member with ⟨name, held⟩
    simp only [List.map_cons, List.mem_cons, not_or] at absent
    simp [insertMember, Ne.symm absent.1, ih absent.2]

/-- A member stays where another is stored, unless it is the one that is found under that key. -/
theorem mem_insertMember {members : List (String × α)} {member : String × α}
    (present : member ∈ members) (key : String) (value : α) :
    member ∈ insertMember members key value ∨
      member.1 = key ∧ lookupMember? members key = some member.2 := by
  -- By induction on the members, up to the first one with the key.
  induction members with
  | nil => cases present
  | cons first rest ih =>
    rcases first with ⟨name, held⟩
    rw [insertMember, lookupMember?_cons]
    by_cases same : name = key
    · -- Only the first member with the key is replaced.
      simp only [if_pos same]
      rcases List.mem_cons.mp present with rfl | later
      · exact Or.inr ⟨same, rfl⟩
      · exact Or.inl (List.mem_cons_of_mem _ later)
    · simp only [if_neg same]
      rcases List.mem_cons.mp present with rfl | later
      · exact Or.inl List.mem_cons_self
      · rcases ih later with kept | found
        · exact Or.inl (List.mem_cons_of_mem _ kept)
        · exact Or.inr found

/-- Storing a member adds none but the one that is stored. -/
theorem mem_of_mem_insertMember {members : List (String × α)} {key : String} {value : α}
    {member : String × α} (inside : member ∈ insertMember members key value) :
    member = (key, value) ∨ member ∈ members := by
  induction members with
  | nil => exact Or.inl (List.mem_singleton.mp inside)
  | cons first rest ih =>
    rcases first with ⟨name, held⟩
    rw [insertMember] at inside
    split at inside
    · -- The stored member stands in the place of the one that had its key.
      rename_i same
      subst same
      exact (List.mem_cons.mp inside).imp id (List.mem_cons_of_mem _)
    · rcases List.mem_cons.mp inside with rfl | later
      · exact Or.inr List.mem_cons_self
      · exact (ih later).imp id (List.mem_cons_of_mem _)

/-- Storing a member repeats no key. -/
theorem insertMember_nodup {members : List (String × α)} (keys : (members.map Prod.fst).Nodup)
    (key : String) (value : α) : ((insertMember members key value).map Prod.fst).Nodup := by
  by_cases present : key ∈ members.map Prod.fst
  · -- A key that is there keeps its place, so the keys are the same.
    rw [insertMember_keys_of_mem present]
    exact keys
  · -- A new key comes last.
    rw [insertMember_of_not_mem present, List.map_append]
    refine List.nodup_append.mpr ⟨keys, by simp, ?_⟩
    intro old known last new same
    rw [List.map_cons, List.map_nil, List.mem_singleton] at new
    subst same new
    exact present known

/-- Members that are put over others are found first, the last one with the key before all. -/
theorem lookupMember?_foldl_insertMember (siblings members : List (String × α)) (key : String) :
    lookupMember? (siblings.foldl (fun merged member => insertMember merged member.1 member.2)
      members) key = (lookupMember? siblings.reverse key).or (lookupMember? members key) := by
  -- The members below are general, since each step puts one more over them.
  induction siblings generalizing members with
  | nil => simp
  | cons member rest ih =>
    rcases member with ⟨name, value⟩
    -- What is stored first is hidden by what is stored later.
    rw [List.foldl_cons, ih, List.reverse_cons, lookupMember?_append, lookupMember?_cons]
    by_cases same : name = key
    · subst same
      simp
    · simp [same, lookupMember?_insertMember_ne (Ne.symm same)]

/-- Putting members over others keeps the keys in front of new ones, which come in the order of the
members. -/
theorem keys_foldl_insertMember (siblings members : List (String × α)) :
    ∃ fresh, (siblings.foldl (fun merged member => insertMember merged member.1 member.2)
      members).map Prod.fst = members.map Prod.fst ++ fresh ∧
        fresh.Sublist (siblings.map Prod.fst) := by
  -- By induction on the members that are put over the others, one after the other.
  induction siblings generalizing members with
  | nil => exact ⟨[], by simp, .slnil⟩
  | cons member rest ih =>
    rcases member with ⟨name, value⟩
    obtain ⟨fresh, keys, order⟩ := ih (insertMember members name value)
    rw [List.foldl_cons, keys]
    by_cases present : name ∈ members.map Prod.fst
    · exact ⟨fresh, by rw [insertMember_keys_of_mem present], order.cons _⟩
    · -- A key that was not there comes behind all others, and in front of those still to come.
      refine ⟨name :: fresh, ?_, order.cons_cons _⟩
      rw [insertMember_of_not_mem present]
      simp

/-- Putting members over others repeats no key. -/
theorem foldl_insertMember_nodup (siblings : List (String × α)) {members : List (String × α)}
    (keys : (members.map Prod.fst).Nodup) :
    ((siblings.foldl (fun merged member => insertMember merged member.1 member.2)
      members).map Prod.fst).Nodup := by
  -- Storing a member repeats none, each time.
  induction siblings generalizing members with
  | nil => exact keys
  | cons member rest ih => exact ih (insertMember_nodup keys member.1 member.2)

/-- Without the members of one key, what is found under other keys stays. -/
theorem lookupMember?_filter_ne (members : List (String × α)) {left key : String}
    (other : key ≠ left) :
    lookupMember? (members.filter fun member => member.1 ≠ left) key =
      lookupMember? members key := by
  -- The search passes over the members that are left out.
  induction members with
  | nil => rfl
  | cons member rest ih =>
    rcases member with ⟨name, value⟩
    by_cases same : name = left
    · subst same
      simpa [lookupMember?_cons, Ne.symm other] using ih
    · simpa [lookupMember?_cons, same] using congrArg _ ih

/-- Without the members of a key, nothing is found under it. -/
theorem lookupMember?_filter_self (members : List (String × α)) (left : String) :
    lookupMember? (members.filter fun member => member.1 ≠ left) left = none := by
  -- Whatever is found stands among the members that are not left out.
  refine Option.eq_none_iff_forall_ne_some.mpr fun value found => ?_
  simpa using (List.mem_filter.mp (lookupMember?_mem found)).2

/-- Changing values under their keys changes what is found in the same way. -/
theorem lookupMember?_map (f : α → β) (members : List (String × α)) (key : String) :
    lookupMember? (members.map fun member => (member.1, f member.2)) key =
      (lookupMember? members key).map f := by
  -- By induction on the members, since keys are compared and left as they are.
  induction members with
  | nil => rfl
  | cons member rest ih =>
    rcases member with ⟨name, value⟩
    by_cases same : name = key <;> simp [lookupMember?_cons, same, ih]

/-- Changed values are stored as the values are. -/
theorem insertMember_map (f : α → β) (members : List (String × α)) (key : String) (value : α) :
    (insertMember members key value).map (fun member => (member.1, f member.2)) =
      insertMember (members.map fun member => (member.1, f member.2)) key (f value) := by
  -- By induction on the members, since keys are compared and left as they are.
  induction members with
  | nil => rfl
  | cons member rest ih =>
    rcases member with ⟨name, held⟩
    by_cases same : name = key <;> simp [insertMember, same, ih]

end SpecTrace
