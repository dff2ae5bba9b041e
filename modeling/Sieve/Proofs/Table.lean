/-
What is found in tables after writing to them. Writing changes what is found at its own key and
nothing else, so after a merge the later entry of a key is found where there is one, and else the
earlier one.

Merging is associative, with the order of the entries too: a key keeps the position at which it
first arrived. That takes writing to a key to go along with a merge into the same table, which in
turn needs that no key of the later table is there twice.
-/

import Sieve.Table

namespace Sieve.Table

variable {α : Type} {key other : String} {value old : α} {entries rest : List (String × α)}

/-! ### What is found -/

@[simp]
theorem lookup_insert :
    (insert key value entries).lookup other =
      if other = key then some value else entries.lookup other := by
  induction entries with
  | nil =>
    rw [insert, List.lookup_cons]
    by_cases same : other = key
    · rw [if_pos same, beq_iff_eq.mpr same]
    · rw [if_neg same, beq_eq_false_iff_ne.mpr same]
  | cons entry rest inductionHypothesis =>
    obtain ⟨present, old⟩ := entry
    rw [insert]
    by_cases replaced : present = key
    · rw [if_pos replaced, List.lookup_cons, List.lookup_cons, replaced]
      by_cases same : other = key
      · rw [if_pos same, beq_iff_eq.mpr same]
      · rw [if_neg same, beq_eq_false_iff_ne.mpr same]
    · rw [if_neg replaced, List.lookup_cons, List.lookup_cons, inductionHypothesis]
      by_cases found : other = present
      · have different : other ≠ key := found ▸ replaced
        rw [if_neg different, if_neg different]
      · rw [beq_eq_false_iff_ne.mpr found]

theorem lookup_eq_none_of_not_mem (absent : key ∉ keys entries) : entries.lookup key = none := by
  refine List.lookup_eq_none_iff.mpr fun entry listed => ?_
  rw [bne_iff_ne]
  rintro rfl
  exact absent (List.mem_map_of_mem listed)

/-- Of two entries for a key the later one is found. -/
@[simp]
theorem lookup_merge {later : List (String × α)} (distinct : (keys later).Nodup) :
    (merge entries later).lookup key = (later.lookup key).or (entries.lookup key) := by
  induction later generalizing entries with
  | nil => rfl
  | cons entry rest inductionHypothesis =>
    obtain ⟨present, value⟩ := entry
    rw [keys, List.map_cons, List.nodup_cons] at distinct
    show (merge (insert present value entries) rest).lookup key = _
    rw [inductionHypothesis distinct.2, lookup_insert, List.lookup_cons]
    by_cases same : key = present
    · rw [if_pos same, beq_iff_eq.mpr same, lookup_eq_none_of_not_mem (same ▸ distinct.1)]
      rfl
    · rw [if_neg same, beq_eq_false_iff_ne.mpr same]

/-! ### Merging in two steps -/

/-- Of two values that are written to a key the second one stays. -/
@[simp]
theorem insert_insert : insert key value (insert key old entries) = insert key value entries := by
  induction entries with
  | nil => rw [insert, insert, insert, if_pos rfl]
  | cons entry rest inductionHypothesis =>
    obtain ⟨present, first⟩ := entry
    rw [insert, insert]
    by_cases same : present = key
    · rw [if_pos same, if_pos same, insert, if_pos rfl]
    · rw [if_neg same, if_neg same, insert, if_neg same, inductionHypothesis]

/-- Writing to a key that is there moves nothing, so another key may as well be written first. -/
theorem insert_comm {second : α} (present : key ∈ keys entries) (different : other ≠ key) :
    insert key value (insert other second entries) =
      insert other second (insert key value entries) := by
  induction entries with
  | nil => exact absurd present List.not_mem_nil
  | cons entry rest inductionHypothesis =>
    obtain ⟨head, first⟩ := entry
    rw [insert, insert]
    by_cases atOther : head = other
    · rw [if_pos atOther, if_neg (atOther ▸ different), insert, insert, if_pos atOther,
        if_neg different]
    · rw [if_neg atOther, insert]
      by_cases atKey : head = key
      · rw [if_pos atKey, if_pos atKey, insert, if_neg different.symm]
      · rw [if_neg atKey, if_neg atKey, insert, if_neg atOther]
        have inRest : key ∈ keys rest := by
          rw [keys, List.map_cons, List.mem_cons] at present
          exact present.resolve_left (Ne.symm atKey)
        rw [inductionHypothesis inRest]

/-- A key that is there already and that is not merged in may be written before the merge. -/
theorem insert_merge_of_mem (present : key ∈ keys entries) (absent : key ∉ keys rest) :
    insert key value (merge entries rest) = merge (insert key value entries) rest := by
  induction rest generalizing entries with
  | nil => rfl
  | cons entry rest inductionHypothesis =>
    obtain ⟨first, second⟩ := entry
    rw [keys, List.map_cons, List.mem_cons, not_or] at absent
    show insert key value (merge (insert first second entries) rest) =
      merge (insert first second (insert key value entries)) rest
    rw [inductionHypothesis (mem_keys_insert.mpr (Or.inr present)) absent.2,
      insert_comm present (Ne.symm absent.1)]

/-- Writing to the later table is writing after the merge. -/
theorem merge_insert {later : List (String × α)} (distinct : (keys later).Nodup) :
    merge entries (insert key value later) = insert key value (merge entries later) := by
  induction later generalizing entries with
  | nil => rfl
  | cons entry rest inductionHypothesis =>
    obtain ⟨present, old⟩ := entry
    rw [keys, List.map_cons, List.nodup_cons] at distinct
    rw [insert]
    by_cases same : present = key
    · rw [if_pos same]
      show merge (insert key value entries) rest =
        insert key value (merge (insert present old entries) rest)
      rw [same] at distinct ⊢
      rw [insert_merge_of_mem (mem_keys_insert.mpr (Or.inl rfl)) distinct.1, insert_insert]
    · rw [if_neg same]
      exact inductionHypothesis distinct.2

theorem merge_assoc {second third : List (String × α)} (distinct : (keys second).Nodup) :
    merge (merge entries second) third = merge entries (merge second third) := by
  induction third generalizing second with
  | nil => rfl
  | cons entry rest inductionHypothesis =>
    show merge (insert entry.1 entry.2 (merge entries second)) rest =
      merge entries (merge (insert entry.1 entry.2 second) rest)
    rw [← inductionHypothesis (nodup_keys_insert distinct), merge_insert distinct]

end Sieve.Table
