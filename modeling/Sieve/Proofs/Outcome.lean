/-
Outcomes are values or faults. These are the few facts about steps one after another that
every proof about reading and rendering uses: a chain of steps succeeds exactly when each
of its steps does, and a walk along a list when its first step and the rest of it do. A
chain fails with the fault of the first step that fails. A walk whose step is the same for
all elements gives what this step gives of each, one by one.
-/

import Mathlib.Data.List.Forall2

namespace Sieve

variable {ε δ α β : Type}

@[simp]
theorem bind_eq_ok_iff {first : Except ε α} {next : α → Except ε β} {result : β} :
    first.bind next = .ok result ↔ ∃ value, first = .ok value ∧ next value = .ok result := by
  cases first with
  | error fault => simp [Except.bind]
  | ok value => simp [Except.bind]

@[simp]
theorem map_eq_ok_iff {first : Except ε α} {function : α → β} {result : β} :
    first.map function = .ok result ↔ ∃ value, first = .ok value ∧ function value = result := by
  cases first with
  | error fault => simp [Except.map]
  | ok value => simp [Except.map]

@[simp]
theorem mapError_eq_ok_iff {first : Except ε α} {function : ε → δ} {result : α} :
    first.mapError function = .ok result ↔ first = .ok result := by
  cases first with
  | error fault =>
    constructor
    · intro outcome
      cases outcome
    · intro outcome
      cases outcome
  | ok value =>
    constructor
    · intro outcome
      cases outcome
      rfl
    · intro outcome
      cases outcome
      rfl

theorem bind_bind {γ : Type} {first : Except ε α} {second : α → Except ε β}
    {third : β → Except ε γ} :
    (first.bind second).bind third = first.bind fun value => (second value).bind third := by
  cases first with
  | error fault => rfl
  | ok value => rfl

/-- A walk along a list succeeds when its first step and the rest of the walk do. -/
theorem bind_cons_eq_ok_iff {first : Except ε α} {rest : Except ε (List α)} {values : List α} :
    (first.bind fun value => rest.map (value :: ·)) = .ok values ↔
      ∃ value others, first = .ok value ∧ rest = .ok others ∧ value :: others = values := by
  rw [bind_eq_ok_iff]
  constructor
  · rintro ⟨value, head, tail⟩
    obtain ⟨others, read, same⟩ := map_eq_ok_iff.mp tail
    exact ⟨value, others, head, read, same⟩
  · rintro ⟨value, others, head, read, same⟩
    exact ⟨value, head, map_eq_ok_iff.mpr ⟨others, read, same⟩⟩

/-! ### Faults -/

@[simp]
theorem bind_eq_error_iff {first : Except ε α} {next : α → Except ε β} {fault : ε} :
    first.bind next = .error fault ↔
      first = .error fault ∨ ∃ value, first = .ok value ∧ next value = .error fault := by
  cases first with
  | error earlier => simp [Except.bind]
  | ok value => simp [Except.bind]

@[simp]
theorem map_eq_error_iff {first : Except ε α} {function : α → β} {fault : ε} :
    first.map function = .error fault ↔ first = .error fault := by
  cases first with
  | error earlier => simp [Except.map]
  | ok value => simp [Except.map]

@[simp]
theorem mapError_eq_error_iff {first : Except ε α} {function : ε → δ} {fault : δ} :
    first.mapError function = .error fault ↔
      ∃ cause, first = .error cause ∧ function cause = fault := by
  cases first with
  | error cause =>
    constructor
    · intro failed
      cases failed
      exact ⟨cause, rfl, rfl⟩
    · rintro ⟨_, same, rfl⟩
      cases same
      rfl
  | ok value =>
    constructor
    · intro impossible
      cases impossible
    · rintro ⟨_, impossible, _⟩
      cases impossible

/-- A walk along a list fails in its first step or in the rest of it. -/
theorem error_of_bind_cons {first : Except ε α} {rest : Except ε (List α)} {fault : ε}
    (failed : (first.bind fun value => rest.map (value :: ·)) = .error fault) :
    first = .error fault ∨ rest = .error fault := by
  rcases bind_eq_error_iff.mp failed with head | ⟨value, _, tail⟩
  · exact Or.inl head
  · exact Or.inr (map_eq_error_iff.mp tail)

/-! ### Walks with one step for all -/

section Walk

variable {step : α → Except ε β} {elements : List α} {values : List β}

theorem mapM_cons_eq_bind (step : α → Except ε β) (first : α) (rest : List α) :
    (first :: rest).mapM step =
      (step first).bind fun value => (rest.mapM step).map (value :: ·) := by
  rw [List.mapM_cons]
  cases step first with
  | error fault => rfl
  | ok value =>
    cases rest.mapM step with
    | error fault => rfl
    | ok others => rfl

theorem mapM_eq_ok_iff :
    elements.mapM step = .ok values ↔
      List.Forall₂ (fun element value => step element = .ok value) elements values := by
  induction elements generalizing values with
  | nil =>
    show Except.ok [] = Except.ok values ↔ _
    rw [List.forall₂_nil_left_iff, Except.ok.injEq, eq_comm]
  | cons first rest inductionHypothesis =>
    rw [mapM_cons_eq_bind, bind_cons_eq_ok_iff, List.forall₂_cons_left_iff]
    simp only [inductionHypothesis, exists_and_left, eq_comm]

theorem length_of_mapM (walked : elements.mapM step = .ok values) :
    values.length = elements.length :=
  (mapM_eq_ok_iff.mp walked).length_eq.symm

theorem exists_mapM_eq_ok_iff :
    (∃ values, elements.mapM step = .ok values) ↔
      ∀ element ∈ elements, ∃ value, step element = .ok value := by
  induction elements with
  | nil => exact iff_of_true ⟨[], rfl⟩ fun _ member => absurd member List.not_mem_nil
  | cons first rest inductionHypothesis =>
    rw [List.forall_mem_cons, ← inductionHypothesis, mapM_cons_eq_bind]
    constructor
    · rintro ⟨_, walked⟩
      obtain ⟨value, others, head, tail, _⟩ := bind_cons_eq_ok_iff.mp walked
      exact ⟨⟨value, head⟩, ⟨others, tail⟩⟩
    · rintro ⟨⟨value, head⟩, ⟨others, tail⟩⟩
      exact ⟨_, bind_cons_eq_ok_iff.mpr ⟨value, others, head, tail, rfl⟩⟩

/-- A walk fails at the first element whose step fails. -/
theorem exists_first_of_mapM {fault : ε} (failed : elements.mapM step = .error fault) :
    ∃ before element after, elements = before ++ element :: after ∧
      (∀ earlier ∈ before, ∃ value, step earlier = .ok value) ∧ step element = .error fault := by
  induction elements with
  | nil => cases failed
  | cons first rest inductionHypothesis =>
    rw [mapM_cons_eq_bind] at failed
    rcases bind_eq_error_iff.mp failed with head | ⟨value, head, tail⟩
    · exact ⟨[], first, rest, rfl, fun _ member => absurd member List.not_mem_nil, head⟩
    · obtain ⟨before, element, after, rfl, passed, stopped⟩ :=
        inductionHypothesis (map_eq_error_iff.mp tail)
      exact ⟨first :: before, element, after, rfl,
        List.forall_mem_cons.mpr ⟨⟨value, head⟩, passed⟩, stopped⟩

end Walk

/-! ### Values alone -/

@[simp]
theorem toOption_map (outcome : Except ε α) (function : α → β) :
    (outcome.map function).toOption = outcome.toOption.map function := by
  cases outcome with
  | error fault => rfl
  | ok value => rfl

@[simp]
theorem toOption_eq_some_iff {outcome : Except ε α} {value : α} :
    outcome.toOption = some value ↔ outcome = .ok value := by
  cases outcome with
  | error fault => simp [Except.toOption]
  | ok present => simp [Except.toOption]

end Sieve
