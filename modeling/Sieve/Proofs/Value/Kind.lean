/-
The kinds that coercion gives. What is brought to a kind has this kind, whatever it was
before: each table of coercion gives, under a target, values of the kind that the target
names and no others.

Bringing a value to a kind item by item differs in one point only. A list stays a list,
whatever the target, and where the target is no list, it is its items that get the kind.
-/

import Sieve.Proofs.Value.Finite

namespace Sieve.Value

/-! ### The tables, by source -/

theorem kind_of_fromBool {flag : Bool} {target : Target} {result : Value}
    (converted : fromBool flag target = some result) : result.kind = target.kind := by
  cases target with
  | bool | int | float | str =>
    cases converted
    rfl
  | list | sequence | date | datetime | formula => cases converted

theorem kind_of_fromInt {number : Int64} {target : Target} {result : Value}
    (converted : fromInt number target = some result) : result.kind = target.kind := by
  cases target with
  | float =>
    rw [fromInt] at converted
    split at converted
    · cases converted
      rfl
    · cases converted
  | bool =>
    rw [fromInt] at converted
    split at converted
    · cases converted
      rfl
    · split at converted
      · cases converted
        rfl
      · cases converted
  | date | datetime =>
    obtain ⟨_, _, rfl⟩ := Option.map_eq_some_iff.mp converted
    rfl
  | int | str | formula =>
    cases converted
    rfl
  | list | sequence => cases converted

theorem kind_of_fromFloat {number : Double} {target : Target} {result : Value}
    (converted : fromFloat number target = some result) : result.kind = target.kind := by
  cases target with
  | int | datetime =>
    obtain ⟨_, _, rfl⟩ := Option.map_eq_some_iff.mp converted
    rfl
  | float | str | formula =>
    cases converted
    rfl
  | bool | list | sequence | date => cases converted

/-- What a document text is read as is a list. -/
theorem kind_of_readList? {text : String} {result : Value}
    (read : readList? text = some result) : result.kind = .list := by
  unfold readList? at read
  split at read
  · rename_i items _
    rw [ofJson] at read
    cases listed : ofItems items with
    | error rejection =>
      rw [listed] at read
      cases read
    | ok values =>
      rw [listed] at read
      cases read
      rfl
  · cases read

theorem kind_of_fromStr {text : String} {target : Target} {result : Value}
    (converted : fromStr text target = some result) : result.kind = target.kind := by
  cases target with
  | list | sequence => exact kind_of_readList? converted
  | int | float | bool | date | datetime =>
    obtain ⟨_, _, rfl⟩ := Option.map_eq_some_iff.mp converted
    rfl
  | str | formula =>
    cases converted
    rfl

theorem kind_of_fromList {items : List Value} {target : Target} {result : Value}
    (converted : fromList items target = some result) : result.kind = target.kind := by
  cases target with
  | str =>
    obtain ⟨_, _, rfl⟩ := Option.map_eq_some_iff.mp converted
    rfl
  | list | sequence =>
    cases converted
    rfl
  | int | bool | float | date | datetime | formula => cases converted

theorem kind_of_fromDate {day : Calendar.Date} {target : Target} {result : Value}
    (converted : fromDate day target = some result) : result.kind = target.kind := by
  cases target with
  | int | float | datetime =>
    obtain ⟨_, _, rfl⟩ := Option.map_eq_some_iff.mp converted
    rfl
  | str | date =>
    cases converted
    rfl
  | bool | list | sequence | formula => cases converted

theorem kind_of_fromInstant {instant : Calendar.Instant} {target : Target} {result : Value}
    (converted : fromInstant instant target = some result) : result.kind = target.kind := by
  cases target with
  | date =>
    obtain ⟨_, _, rfl⟩ := Option.map_eq_some_iff.mp converted
    rfl
  | int | float | str | datetime =>
    cases converted
    rfl
  | bool | list | sequence | formula => cases converted

theorem kind_of_fromFormula {text : String} {target : Target} {result : Value}
    (converted : fromFormula text target = some result) : result.kind = target.kind := by
  cases target with
  | str | formula =>
    cases converted
    rfl
  | int | bool | float | list | sequence | date | datetime => cases converted

/-! ### Coercion -/

theorem kind_of_convert? {target : Target} {value result : Value}
    (converted : convert? target value = some result) : result.kind = target.kind := by
  cases value with
  | bool flag => exact kind_of_fromBool converted
  | int number => exact kind_of_fromInt converted
  | float number =>
    rw [convert?] at converted
    split at converted
    · exact kind_of_fromFloat converted
    · cases converted
  | str text => exact kind_of_fromStr converted
  | list items => exact kind_of_fromList converted
  | date day => exact kind_of_fromDate converted
  | datetime instant => exact kind_of_fromInstant converted
  | formula text => exact kind_of_fromFormula converted

/-- What is brought to a kind has this kind. -/
theorem kind_of_coerce {target : Target} {value result : Value}
    (coerced : coerce target value = .ok result) : result.kind = target.kind :=
  kind_of_convert? (coerce_eq_ok_iff.mp coerced)

theorem kind_of_coerceAll {target : Target} {values results : List Value}
    (coerced : coerceAll target values = .ok results) :
    ∀ result ∈ results, result.kind = target.kind := by
  rw [coerceAll_eq_ok_iff] at coerced
  induction coerced with
  | nil => exact fun _ member => absurd member List.not_mem_nil
  | cons head _ inductionHypothesis =>
    exact List.forall_mem_cons.mpr ⟨kind_of_coerce head, inductionHypothesis⟩

/-- A value that is of a kind, or a list: of items that are all of this kind, where it is not the kind
of lists itself. -/
def IsBroughtTo (target : Target) (value : Value) : Prop :=
  value.kind = target.kind ∨
    ∃ items, value = .list items ∧
      (target.isSequence = false → ∀ item ∈ items, item.kind = target.kind)

theorem isBroughtTo_of_coerceEach {target : Target} {value result : Value}
    (coerced : coerceEach target value = .ok result) : result.IsBroughtTo target := by
  cases value with
  | list items =>
    rw [coerceEach] at coerced
    split at coerced
    · exact Or.inl (kind_of_coerce coerced)
    · obtain ⟨results, all, rfl⟩ := map_eq_ok_iff.mp coerced
      exact Or.inr ⟨results, rfl, fun _ => kind_of_coerceAll all⟩
  | bool _ | int _ | float _ | str _ | date _ | datetime _ | formula _ =>
    exact Or.inl (kind_of_coerce coerced)

/-- A list is never brought to anything but a list. -/
theorem kind_of_coerceEach_list {target : Target} {items : List Value} {result : Value}
    (coerced : coerceEach target (.list items) = .ok result) : result.kind = .list := by
  rw [coerceEach] at coerced
  split at coerced
  · rename_i sequence
    rw [kind_of_coerce coerced]
    exact of_decide_eq_true sequence
  · obtain ⟨results, _, rfl⟩ := map_eq_ok_iff.mp coerced
    rfl

end Sieve.Value
