/-
Lists of keys and values that remember the order in which the keys first
arrived. Writing to a key that is present replaces its value and moves nothing;
writing to any other key puts it at the end. So a list that was built by writing
alone holds every key once.
-/

namespace Sieve.Table

variable {α : Type}

/-- The entries after a value is written to a key. -/
def insert (key : String) (value : α) : List (String × α) → List (String × α)
  | [] => [(key, value)]
  | (present, old) :: rest =>
    if present = key then (key, value) :: rest else (present, old) :: insert key value rest

/-- The entries after all of a second list are written to them, first to last. -/
def merge (entries : List (String × α)) (later : List (String × α)) : List (String × α) :=
  later.foldl (fun entries entry => insert entry.1 entry.2 entries) entries

/-- The keys in their order. -/
def keys (entries : List (String × α)) : List String :=
  entries.map Prod.fst

@[simp]
theorem mem_keys_insert {key other : String} {value : α} {entries : List (String × α)} :
    other ∈ keys (insert key value entries) ↔ other = key ∨ other ∈ keys entries := by
  induction entries with
  | nil => simp [insert, keys]
  | cons entry rest inductionHypothesis =>
    obtain ⟨present, old⟩ := entry
    by_cases same : present = key
    · simp [insert, keys, same]
    · simp only [keys] at inductionHypothesis
      simp only [insert, same, if_false, keys, List.map_cons, List.mem_cons, inductionHypothesis]
      constructor
      · rintro (head | inserted | tail)
        · exact Or.inr (Or.inl head)
        · exact Or.inl inserted
        · exact Or.inr (Or.inr tail)
      · rintro (inserted | head | tail)
        · exact Or.inr (Or.inl inserted)
        · exact Or.inl head
        · exact Or.inr (Or.inr tail)

/-- Writing keeps the keys distinct. -/
theorem nodup_keys_insert {key : String} {value : α} {entries : List (String × α)}
    (distinct : (keys entries).Nodup) : (keys (insert key value entries)).Nodup := by
  induction entries with
  | nil => simp [insert, keys]
  | cons entry rest inductionHypothesis =>
    obtain ⟨present, old⟩ := entry
    simp only [keys, List.map_cons, List.nodup_cons] at distinct
    by_cases same : present = key
    · subst same
      simpa only [insert, if_true, keys, List.map_cons, List.nodup_cons] using distinct
    · have restDistinct := inductionHypothesis distinct.2
      simp only [keys] at restDistinct
      simp only [insert, same, if_false, keys, List.map_cons, List.nodup_cons]
      refine ⟨fun member => ?_, restDistinct⟩
      rcases mem_keys_insert.mp member with head | tail
      · exact same head
      · exact distinct.1 tail

/-- A key that is not there yet is written at the end. -/
theorem insert_of_not_mem {key : String} {value : α} {entries : List (String × α)}
    (fresh : key ∉ keys entries) : insert key value entries = entries ++ [(key, value)] := by
  induction entries with
  | nil => rfl
  | cons entry rest inductionHypothesis =>
    obtain ⟨present, old⟩ := entry
    rw [keys, List.map_cons, List.mem_cons, not_or] at fresh
    rw [insert, if_neg (Ne.symm fresh.1), inductionHypothesis fresh.2, List.cons_append]

/-- Where no key is there twice, none is there before its own entry. -/
theorem not_mem_of_nodup {entry : String × α} {entries rest : List (String × α)}
    (distinct : (keys (entries ++ entry :: rest)).Nodup) : entry.1 ∉ keys entries := by
  rw [keys, List.map_append, List.map_cons, List.nodup_append] at distinct
  exact fun present => distinct.2.2 entry.1 present entry.1 List.mem_cons_self rfl

/-- Entries whose keys are all new are written one after another at the end. -/
theorem merge_of_nodup {entries later : List (String × α)}
    (distinct : (keys (entries ++ later)).Nodup) : merge entries later = entries ++ later := by
  induction later generalizing entries with
  | nil => exact (List.append_nil entries).symm
  | cons entry rest inductionHypothesis =>
    have step : merge entries (entry :: rest) = merge (entries ++ [entry]) rest :=
      congrArg (merge · rest) (insert_of_not_mem (not_mem_of_nodup distinct))
    rw [List.append_cons] at distinct ⊢
    rw [step, inductionHypothesis distinct]

/-- Merging keeps the keys distinct. -/
theorem nodup_keys_merge {entries later : List (String × α)} (distinct : (keys entries).Nodup) :
    (keys (merge entries later)).Nodup := by
  induction later generalizing entries with
  | nil => exact distinct
  | cons entry rest inductionHypothesis => exact inductionHypothesis (nodup_keys_insert distinct)

end Sieve.Table
