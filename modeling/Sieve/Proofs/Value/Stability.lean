/-
What coercion comes to. A value is brought to the kind that the target names or it is refused, and
then the fault names the two kinds. The pairs of a kind and a target that are ever served make a
table, from which no value of the kind departs.

What has a kind already is left as it is; only a float has to be finite for it. Since all floats
that coercion makes are finite, bringing a value to a kind twice is the same as doing it once. For
lists that are brought to a kind item by item this goes through item by item.
-/

import Sieve.Proofs.Value.Epoch
import Sieve.Proofs.Value.Kind

namespace Sieve.Value

/-! ### The table of kinds and targets -/

/-- The targets to which values of a kind can be brought. -/
def Kind.targets : Kind → List Target
  | .bool => [.int, .str, .bool, .float]
  | .int => [.int, .str, .bool, .float, .date, .datetime, .formula]
  | .float => [.int, .str, .float, .datetime, .formula]
  | .str => [.int, .str, .bool, .float, .list, .sequence, .date, .datetime, .formula]
  | .list => [.str, .list, .sequence]
  | .date => [.int, .str, .float, .date, .datetime]
  | .datetime => [.int, .str, .float, .date, .datetime]
  | .formula => [.str, .formula]

theorem mem_targets_of_fromFloat {number : Double} {target : Target} {result : Value}
    (converted : fromFloat number target = some result) : target ∈ Kind.float.targets := by
  cases target with
  | int | str | float | datetime | formula => decide
  | bool | list | sequence | date => cases converted

theorem mem_targets_of_convert? {target : Target} {value result : Value}
    (converted : convert? target value = some result) : target ∈ value.kind.targets := by
  cases value with
  | bool _ =>
    cases target with
    | int | str | bool | float => exact of_decide_eq_true rfl
    | list | sequence | date | datetime | formula => cases converted
  | int _ =>
    cases target with
    | int | str | bool | float | date | datetime | formula => exact of_decide_eq_true rfl
    | list | sequence => cases converted
  | float number =>
    rw [convert?] at converted
    split at converted
    · exact mem_targets_of_fromFloat converted
    · cases converted
  | str _ => cases target <;> exact of_decide_eq_true rfl
  | list _ =>
    cases target with
    | str | list | sequence => exact of_decide_eq_true rfl
    | int | bool | float | date | datetime | formula => cases converted
  | date _ | datetime _ =>
    cases target with
    | int | str | float | date | datetime => exact of_decide_eq_true rfl
    | bool | list | sequence | formula => cases converted
  | formula _ =>
    cases target with
    | str | formula => exact of_decide_eq_true rfl
    | int | bool | float | list | sequence | date | datetime => cases converted

/-- No entry of the table is there for nothing. -/
theorem exists_of_mem_targets {source : Kind} {target : Target} (listed : target ∈ source.targets) :
    ∃ value result, value.kind = source ∧ coerce target value = .ok result := by
  cases source with
  | bool =>
    cases target with
    | int | str | bool | float => exact ⟨.bool true, _, rfl, rfl⟩
    | list | sequence | date | datetime | formula => exact absurd listed (by decide)
  | int =>
    cases target with
    | int | str | bool | float | date | datetime | formula => exact ⟨.int 0, _, rfl, rfl⟩
    | list | sequence => exact absurd listed (by decide)
  | float =>
    cases target with
    | int | str | float | formula => exact ⟨.float .one, _, rfl, rfl⟩
    | datetime => exact ⟨.float ⟨0x3FF8000000000000⟩, _, rfl, rfl⟩
    | bool | list | sequence | date => exact absurd listed (by decide)
  | str =>
    cases target with
    | int | str | float | formula => exact ⟨.str "0", _, rfl, rfl⟩
    | bool => exact ⟨.str "true", _, rfl, rfl⟩
    | list | sequence => exact ⟨.str "[]", _, rfl, rfl⟩
    | date => exact ⟨.str "1970-01-01", _, rfl, rfl⟩
    | datetime => exact ⟨.str "1970-01-01T00:00:00Z", _, rfl, rfl⟩
  | list =>
    cases target with
    | str | list | sequence => exact ⟨.list [], _, rfl, rfl⟩
    | int | bool | float | date | datetime | formula => exact absurd listed (by decide)
  | date =>
    let date : Calendar.Date := ⟨1970, 1, 1, by decide, by decide⟩
    obtain ⟨moment, number, float, toMoment, toNumber, toFloat, _⟩ := date_survives date
    cases target with
    | str | date => exact ⟨.date date, _, rfl, rfl⟩
    | int => exact ⟨.date date, number, rfl, toNumber⟩
    | float => exact ⟨.date date, float, rfl, toFloat⟩
    | datetime => exact ⟨.date date, moment, rfl, toMoment⟩
    | bool | list | sequence | formula => exact absurd listed (by decide)
  | datetime =>
    cases target with
    | int | str | float | date | datetime =>
      exact ⟨.datetime ⟨0, 0, by decide, by decide⟩, _, rfl, rfl⟩
    | bool | list | sequence | formula => exact absurd listed (by decide)
  | formula =>
    cases target with
    | str | formula => exact ⟨.formula "=0", _, rfl, rfl⟩
    | int | bool | float | list | sequence | date | datetime => exact absurd listed (by decide)

theorem mem_targets_iff {source : Kind} {target : Target} :
    target ∈ source.targets ↔
      ∃ value result, value.kind = source ∧ coerce target value = .ok result := by
  refine ⟨exists_of_mem_targets, ?_⟩
  rintro ⟨value, result, rfl, coerced⟩
  exact mem_targets_of_convert? (coerce_eq_ok_iff.mp coerced)

/-! ### One value -/

/-- A value of the kind that is asked for is left as it is. -/
theorem coerce_self {target : Target} {value : Value} (kind : value.kind = target.kind)
    (finite : target.isSequence = false → value.isFinite = true) :
    coerce target value = .ok value := by
  cases value with
  | float number =>
    cases target with
    | float =>
      have isNumber : number.isFinite = true := finite rfl
      rw [coerce, convert?, if_pos isNumber]
      rfl
    | int | str | bool | list | sequence | date | datetime | formula => cases kind
  | bool _ | int _ | str _ | list _ | date _ | datetime _ | formula _ =>
    cases target <;> first | rfl | cases kind

theorem coerce_of_coerce {target : Target} {value result : Value}
    (coerced : coerce target value = .ok result) : coerce target result = .ok result := by
  refine coerce_self (kind_of_coerce coerced) fun noSequence => ?_
  refine isFinite_of_coerce (fun sequence => ?_) coerced
  cases noSequence.symm.trans sequence

/-! ### Item by item -/

/-- A list fails with its first item that fails. -/
theorem exists_first_of_coerceAll {target : Target} {values : List Value} {fault : ConversionFault}
    (refused : coerceAll target values = .error fault) :
    ∃ before item after, values = before ++ item :: after ∧
      (∀ earlier ∈ before, ∃ result, coerce target earlier = .ok result) ∧
      coerce target item = .error fault := by
  rw [coerceAll_eq_mapM] at refused
  exact exists_first_of_mapM refused

theorem coerceAll_of_coerceAll {target : Target} {values results : List Value}
    (coerced : coerceAll target values = .ok results) :
    coerceAll target results = .ok results := by
  rw [coerceAll_eq_ok_iff] at coerced ⊢
  induction coerced with
  | nil => exact .nil
  | cons head _ inductionHypothesis => exact .cons (coerce_of_coerce head) inductionHypothesis

theorem coerceEach_list {target : Target} (single : target.isSequence = false)
    (items : List Value) : coerceEach target (.list items) = (coerceAll target items).map .list := by
  rw [coerceEach, if_neg (Bool.eq_false_iff.mp single)]

theorem coerceEach_of_kind {target : Target} {value : Value} (noList : value.kind ≠ .list) :
    coerceEach target value = coerce target value := by
  cases value with
  | list items => exact absurd rfl noList
  | bool _ | int _ | float _ | str _ | date _ | datetime _ | formula _ => rfl

theorem coerceEach_of_coerceEach {target : Target} {value result : Value}
    (coerced : coerceEach target value = .ok result) : coerceEach target result = .ok result := by
  by_cases sequence : target.isSequence = true
  · rw [coerceEach_eq_coerce sequence] at coerced ⊢
    exact coerce_of_coerce coerced
  · have single : target.isSequence = false := Bool.eq_false_iff.mpr sequence
    cases value with
    | list items =>
      rw [coerceEach_list single] at coerced
      obtain ⟨results, all, rfl⟩ := map_eq_ok_iff.mp coerced
      rw [coerceEach_list single, coerceAll_of_coerceAll all]
      rfl
    | bool _ | int _ | float _ | str _ | date _ | datetime _ | formula _ =>
      have whole : coerce target _ = .ok result := coerced
      have noList : result.kind ≠ .list := by
        rw [kind_of_coerce whole]
        exact of_decide_eq_false single
      rw [coerceEach_of_kind noList, coerce_of_coerce whole]

/-! ### Landing and staying -/

/-- What is brought to a kind has the kind, comes from the table and stays as it is from then on; what is
refused is refused with its own kind. Item by item the same holds of each item, and the first item
that is refused is the one that counts. -/
theorem coercion_lands_and_stays (target : Target) (value : Value) :
    (∀ result, coerce target value = .ok result →
      result.kind = target.kind ∧ target ∈ value.kind.targets ∧ coerce target result = .ok result) ∧
    (∀ fault, coerce target value = .error fault → fault = ⟨value.kind, target⟩) ∧
    (∀ result, coerceEach target value = .ok result → coerceEach target result = .ok result) ∧
    ∀ items, value = .list items → target.isSequence = false →
      (∀ result, coerceEach target value = .ok result →
        ∃ results, result = .list results ∧
          List.Forall₂ (fun item itemResult => coerce target item = .ok itemResult) items results) ∧
      ∀ fault, coerceEach target value = .error fault →
        ∃ before item after, items = before ++ item :: after ∧
          (∀ earlier ∈ before, ∃ itemResult, coerce target earlier = .ok itemResult) ∧
          coerce target item = .error fault ∧ fault = ⟨item.kind, target⟩ := by
  refine ⟨fun result coerced => ⟨kind_of_coerce coerced,
    mem_targets_iff.mpr ⟨value, result, rfl, coerced⟩, coerce_of_coerce coerced⟩,
    fun _ => fault_of_coerce, fun _ => coerceEach_of_coerceEach, ?_⟩
  rintro items rfl single
  rw [coerceEach_list single]
  constructor
  · intro result coerced
    obtain ⟨results, all, rfl⟩ := map_eq_ok_iff.mp coerced
    exact ⟨results, rfl, coerceAll_eq_ok_iff.mp all⟩
  · intro fault refused
    obtain ⟨before, item, after, split, served, failed⟩ :=
      exists_first_of_coerceAll (map_eq_error_iff.mp refused)
    exact ⟨before, item, after, split, served, failed, fault_of_coerce failed⟩

theorem second_text_of_list_is_no_integer :
    let items : List Value := [.str " 1 ", .str "x", .str "y"]
    coerceEach .int (.list items) = .error ⟨.str, .int⟩ ∧
      (∃ before item after, items = before ++ item :: after ∧
        (∀ earlier ∈ before, ∃ itemResult, coerce .int earlier = .ok itemResult) ∧
        coerce .int item = .error ⟨.str, .int⟩ ∧ (⟨.str, .int⟩ : ConversionFault) = ⟨item.kind, .int⟩) ∧
      coerceEach .int (.list (items.take 1)) = .ok (.list [.int 1]) ∧
      coerceEach .int (.list [.int 1]) = .ok (.list [.int 1]) ∧
      coerce .int (.str " 1 ") = .ok (.int 1) ∧ coerce .int (.int 1) = .ok (.int 1) := by
  intro items
  obtain ⟨_, _, _, each⟩ := coercion_lands_and_stays .int (.list items)
  obtain ⟨_, _, stays, _⟩ := coercion_lands_and_stays .int (.list (items.take 1))
  obtain ⟨lands, _⟩ := coercion_lands_and_stays .int (.str " 1 ")
  have refused : coerceEach .int (.list items) = .error ⟨.str, .int⟩ := by rfl
  have served : coerceEach .int (.list (items.take 1)) = .ok (.list [.int 1]) := by rfl
  have single : coerce .int (.str " 1 ") = .ok (.int 1) := by rfl
  exact ⟨refused, (each items rfl rfl).2 _ refused, served, stays _ served, single,
    (lands _ single).2.2⟩

end Sieve.Value
