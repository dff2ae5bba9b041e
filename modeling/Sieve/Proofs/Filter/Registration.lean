/-
Registering operators. Somebody makes one attempt after another to get an operator into the
table; some of them are refused. This file says which: an attempt succeeds if it is valid in
itself and no earlier attempt got its marker into the table. A refusal is for the first thing
that is wrong, and it leaves no trace, so the table lists the attempts that succeeded, in their
order, and every marker of theirs leads to its operator again.

All of this is shown of one attempt, whatever the table before it; for a row of attempts it
follows by induction, as the table always lists what has succeeded so far.
-/

import Mathlib.Data.List.Nodup
import Sieve.Filter.Registry

namespace Sieve.Filter

variable {γ φ : Type}

/-! ### Attempts -/

/-- An attempt to get an operator into the table. -/
structure Registration (γ : Type := Connective) (φ : Type := Operation) where
  marker : String
  category : Category
  builder : Builder γ φ

namespace Registration

/-- The marker is the sign of operators with something after it. -/
def IsMarked (registration : Registration γ φ) : Prop :=
  ∃ name, name ≠ [] ∧ registration.marker.toList = '@' :: name

/-- Groups are built in the logical category, and only there. -/
def IsFitting (registration : Registration γ φ) : Prop :=
  (∃ connective, registration.builder = .logical connective) ↔ registration.category = .logical

end Registration

/-- The attempt that an operator came from. -/
def Operator.registration (operator : Operator γ φ) : Registration γ φ :=
  ⟨operator.marker, operator.category, operator.builder⟩

namespace Registry

/-- The attempts that the operators of a table came from. -/
def registrations (registry : Registry γ φ) : List (Registration γ φ) :=
  registry.operators.map Operator.registration

/-- The table after an attempt, and the fault if the attempt was refused. -/
def attempt (registry : Registry γ φ) (registration : Registration γ φ) :
    Registry γ φ × Option RegistrationFault :=
  match registry.register registration.marker registration.category registration.builder with
  | .ok extended => (extended, none)
  | .error fault => (registry, some fault)

/-- The table after several attempts, and what became of each of them. -/
def attemptAll (registry : Registry γ φ) :
    List (Registration γ φ) → Registry γ φ × List (Option RegistrationFault)
  | [] => (registry, [])
  | registration :: rest =>
    let first := registry.attempt registration
    let others := first.1.attemptAll rest
    (others.1, first.2 :: others.2)

end Registry

/-- The attempts that were not refused. -/
def successes (attempts : List (Registration γ φ)) (outcomes : List (Option RegistrationFault)) :
    List (Registration γ φ) :=
  ((attempts.zip outcomes).filter fun attempt => attempt.2.isNone).map Prod.fst

/-- What has to become of an attempt, after others have succeeded. The four cases exclude each other:
an attempt is refused for its marker first, then for its category and last for a marker in use. -/
structure Verdict (earlier : List (Registration γ φ)) (registration : Registration γ φ)
    (outcome : Option RegistrationFault) : Prop where
  accepted : outcome = none ↔ registration.IsMarked ∧ registration.IsFitting ∧
    ∀ other ∈ earlier, other.marker ≠ registration.marker
  invalidMarker : outcome = some (.invalidMarker registration.marker) ↔ ¬ registration.IsMarked
  unfitCategory :
    outcome = some (.unfitCategory registration.marker registration.category) ↔
      registration.IsMarked ∧ ¬ registration.IsFitting
  duplicateMarker :
    outcome = some (.duplicateMarker registration.marker) ↔
      registration.IsMarked ∧ registration.IsFitting ∧
        ∃ other ∈ earlier, other.marker = registration.marker

/-! ### Conditions -/

theorem isMarker_iff (registration : Registration γ φ) :
    isMarker registration.marker = true ↔ registration.IsMarked := by
  unfold isMarker isOperatorKey Registration.IsMarked
  cases registration.marker.toList with
  | nil => simp
  | cons first name =>
    rw [Bool.and_eq_true, decide_eq_true_iff, decide_eq_true_iff, List.head?_cons,
      Option.some_inj, List.length_cons, Nat.lt_add_left_iff_pos, List.length_pos_iff]
    constructor
    · rintro ⟨rfl, some⟩
      exact ⟨name, some, rfl⟩
    · rintro ⟨_, some, same⟩
      cases same
      exact ⟨rfl, some⟩

theorem fitting_iff (registration : Registration γ φ) :
    registration.builder.isLogical = decide (registration.category = .logical) ↔
      registration.IsFitting := by
  unfold Registration.IsFitting Builder.isLogical
  cases registration.builder with
  | logical connective => simp [eq_comm]
  | field operation => simp [eq_comm]

namespace Registry

/-! ### One attempt -/

theorem mem_markers_iff {registry : Registry γ φ} {marker : String} :
    marker ∈ registry.operators.map Operator.marker ↔
      ∃ other ∈ registry.registrations, other.marker = marker := by
  simp only [registrations, List.mem_map, exists_exists_and_eq_and]
  rfl

/-- Everything that an attempt can do: it is refused in one of three ways, and the table stays what it
was, or the operator is added at the end. -/
theorem attempt_cases (registry : Registry γ φ) (registration : Registration γ φ) :
    (¬ registration.IsMarked ∧
      registry.attempt registration = (registry, some (.invalidMarker registration.marker))) ∨
    (registration.IsMarked ∧ ¬ registration.IsFitting ∧
      registry.attempt registration =
        (registry, some (.unfitCategory registration.marker registration.category))) ∨
    (registration.IsMarked ∧ registration.IsFitting ∧
      (∃ other ∈ registry.registrations, other.marker = registration.marker) ∧
      registry.attempt registration = (registry, some (.duplicateMarker registration.marker))) ∨
    (registration.IsMarked ∧ registration.IsFitting ∧
      (¬ ∃ other ∈ registry.registrations, other.marker = registration.marker) ∧
      ∃ extended, registry.attempt registration = (extended, none) ∧
        extended.registrations = registry.registrations ++ [registration]) := by
  rw [← isMarker_iff, ← fitting_iff, ← mem_markers_iff]
  unfold attempt register
  by_cases marked : isMarker registration.marker = true
  · rw [dif_pos marked]
    by_cases fitting :
        registration.builder.isLogical = decide (registration.category = .logical)
    · rw [dif_pos fitting]
      unfold add
      by_cases taken : registration.marker ∈ registry.operators.map Operator.marker
      · rw [dif_pos taken]
        exact Or.inr (Or.inr (Or.inl ⟨marked, fitting, taken, rfl⟩))
      · rw [dif_neg taken]
        exact Or.inr (Or.inr (Or.inr ⟨marked, fitting, taken, _, rfl, List.map_append⟩))
    · rw [dif_neg fitting]
      exact Or.inr (Or.inl ⟨marked, fitting, rfl⟩)
  · rw [dif_neg marked]
    exact Or.inl ⟨marked, rfl⟩

theorem verdict_attempt (registry : Registry γ φ) (registration : Registration γ φ) :
    Verdict registry.registrations registration (registry.attempt registration).2 := by
  have fresh_iff : (∀ other ∈ registry.registrations, other.marker ≠ registration.marker) ↔
      ¬ ∃ other ∈ registry.registrations, other.marker = registration.marker := by
    rw [not_exists]
    exact forall_congr' fun _ => not_and.symm
  rcases registry.attempt_cases registration with ⟨unmarked, refused⟩ |
    ⟨marked, unfit, refused⟩ | ⟨marked, fitting, taken, refused⟩ |
    ⟨marked, fitting, fresh, extended, accepted, _⟩
  · constructor <;> simp [refused, unmarked]
  · constructor <;> simp [refused, marked, unfit]
  · constructor <;> rw [refused] <;> simp [marked, fitting, taken, fresh_iff]
  · constructor <;> rw [accepted] <;> simp [marked, fitting, fresh, fresh_iff]

/-- What is refused leaves no trace. -/
theorem attempt_of_refused {registry : Registry γ φ} {registration : Registration γ φ}
    (refused : (registry.attempt registration).2 ≠ none) :
    (registry.attempt registration).1 = registry := by
  rcases registry.attempt_cases registration with ⟨_, outcome⟩ | ⟨_, _, outcome⟩ |
    ⟨_, _, _, outcome⟩ | ⟨_, _, _, extended, outcome, _⟩
  · rw [outcome]
  · rw [outcome]
  · rw [outcome]
  · rw [outcome] at refused
    exact absurd rfl refused

/-- A table lists one more attempt if it succeeded. -/
theorem registrations_attempt (registry : Registry γ φ) (registration : Registration γ φ) :
    (registry.attempt registration).1.registrations =
      registry.registrations ++ successes [registration] [(registry.attempt registration).2] := by
  rcases registry.attempt_cases registration with ⟨_, outcome⟩ | ⟨_, _, outcome⟩ |
    ⟨_, _, _, outcome⟩ | ⟨_, _, _, extended, outcome, added⟩
  · rw [outcome]
    exact (List.append_nil _).symm
  · rw [outcome]
    exact (List.append_nil _).symm
  · rw [outcome]
    exact (List.append_nil _).symm
  · rw [outcome]
    exact added

/-! ### Several attempts -/

theorem successes_cons (registration : Registration γ φ) (rest : List (Registration γ φ))
    (outcome : Option RegistrationFault) (others : List (Option RegistrationFault)) :
    successes (registration :: rest) (outcome :: others) =
      successes [registration] [outcome] ++ successes rest others := by
  cases outcome <;> rfl

@[simp]
theorem length_attemptAll (registry : Registry γ φ) (attempts : List (Registration γ φ)) :
    (registry.attemptAll attempts).2.length = attempts.length := by
  induction attempts generalizing registry with
  | nil => rfl
  | cons registration rest inductionHypothesis =>
    exact congrArg (· + 1) (inductionHypothesis (registry.attempt registration).1)

/-- The table always lists what has succeeded so far. -/
theorem registrations_attemptAll (registry : Registry γ φ) (attempts : List (Registration γ φ)) :
    (registry.attemptAll attempts).1.registrations =
      registry.registrations ++ successes attempts (registry.attemptAll attempts).2 := by
  induction attempts generalizing registry with
  | nil => exact (List.append_nil _).symm
  | cons registration rest inductionHypothesis =>
    rw [attemptAll, inductionHypothesis, registrations_attempt, List.append_assoc,
      ← successes_cons]

@[simp]
theorem attemptAll_append (registry : Registry γ φ)
    (earlier later : List (Registration γ φ)) :
    registry.attemptAll (earlier ++ later) =
      (((registry.attemptAll earlier).1.attemptAll later).1,
        (registry.attemptAll earlier).2 ++ ((registry.attemptAll earlier).1.attemptAll later).2) := by
  induction earlier generalizing registry with
  | nil => rfl
  | cons registration rest inductionHypothesis =>
    rw [List.cons_append, attemptAll, inductionHypothesis]
    rfl

/-! ### Look-up -/

theorem resolve?_eq_some_iff {registry : Registry γ φ} {marker : String}
    {operator : Operator γ φ} :
    registry.resolve? marker = some operator ↔
      operator ∈ registry.operators ∧ operator.marker = marker := by
  rw [resolve?_eq_find?]
  constructor
  · intro found
    exact ⟨List.mem_of_find?_eq_some found, of_decide_eq_true (List.find?_some found :)⟩
  · rintro ⟨member, rfl⟩
    cases found : registry.operators.find? fun other => other.marker = operator.marker with
    | none =>
      have missed := List.find?_eq_none.mp found operator member
      exact absurd (decide_eq_true rfl) missed
    | some other =>
      have same : other.marker = operator.marker := of_decide_eq_true (List.find?_some found :)
      have unique := List.inj_on_of_nodup_map registry.distinct
      exact congrArg some (unique (List.mem_of_find?_eq_some found) member same)

/-- Attempts to fill an empty table. Whatever attempts are made, each one succeeds or is refused as it
has to after those that succeeded before it, whatever follows; one that is refused leaves the
table as it was; and in the end the operators are those of the attempts that succeeded, in their
order, no two of them have one marker, and each marker leads to the operator that has it, if
there is one. -/
theorem first_valid_attempts_are_registered (attempts : List (Registration γ φ)) :
    let outcome := (empty : Registry γ φ).attemptAll attempts
    outcome.2.length = attempts.length ∧
      (∀ earlier registration later, attempts = earlier ++ registration :: later →
        let before := (empty : Registry γ φ).attemptAll earlier
        ∃ verdict others, outcome.2 = before.2 ++ verdict :: others ∧
          Verdict (successes earlier before.2) registration verdict ∧
          (verdict ≠ none → (empty.attemptAll (earlier ++ [registration])).1 = before.1)) ∧
      outcome.1.operators.map Operator.registration = successes attempts outcome.2 ∧
      (outcome.1.operators.map Operator.marker).Nodup ∧
      ∀ marker operator, outcome.1.resolve? marker = some operator ↔
        operator ∈ outcome.1.operators ∧ operator.marker = marker := by
  refine ⟨length_attemptAll empty attempts, ?_, registrations_attemptAll empty attempts,
    Registry.distinct _, fun _ _ => resolve?_eq_some_iff⟩
  rintro earlier registration later rfl
  have listed : (empty.attemptAll earlier).1.registrations =
      successes earlier (empty.attemptAll earlier).2 := registrations_attemptAll empty earlier
  refine ⟨_, _, congrArg Prod.snd (attemptAll_append empty earlier (registration :: later)), ?_, ?_⟩
  · rw [← listed]
    exact verdict_attempt _ registration
  · intro refused
    rw [attemptAll_append]
    exact attempt_of_refused refused

/-- The standard table is what its operators make of an empty one, one after another. -/
example :
    empty.attemptAll standard.registrations = (standard, List.replicate 11 none) := by rfl

end Registry

end Sieve.Filter
