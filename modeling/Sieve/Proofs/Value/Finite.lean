/-
This file is about values that hold no float but finite ones. They are the values that
have a document form, and the values of a document are among them. Bringing any value to
a kind that is not the kind of lists gives such a value: where the tables of coercion make
a float, it comes from a text that was read as a finite number, from an integer that is
exact as a double, or from a count of seconds in the years that are kept; and a float that
is no number is brought to nothing.

A list that is brought to a list is given back as it is, without a look at its items. So
this one conversion keeps a float that is no number, and no other does.
-/

import Sieve.Proofs.Double.Finite
import Sieve.Proofs.Outcome
import Sieve.Value.Coercion

namespace Sieve.Value

mutual

/-- Whether every float in a value is finite, at any depth. -/
def isFinite : Value → Bool
  | .float number => number.isFinite
  | .list items => allFinite items
  | .bool _ | .int _ | .str _ | .date _ | .datetime _ | .formula _ => true

/-- Whether every float in some values is finite. -/
def allFinite : List Value → Bool
  | [] => true
  | value :: rest => isFinite value && allFinite rest

end

theorem allFinite_iff {items : List Value} :
    allFinite items = true ↔ ∀ item ∈ items, item.isFinite = true := by
  induction items with
  | nil => exact iff_of_true rfl fun _ listed => absurd listed List.not_mem_nil
  | cons item rest inductionHypothesis =>
    rw [allFinite, Bool.and_eq_true, inductionHypothesis, List.forall_mem_cons]

/-! ### Values and documents -/

mutual

/-- The values with a document form are those whose floats are finite. -/
theorem isSome_toJson? : (value : Value) → (toJson? value).isSome = value.isFinite
  | .float number => by
    rw [toJson?, isFinite, numberToJson?]
    by_cases finite : number.isFinite = true
    · rw [dif_pos finite, finite, Option.isSome_some]
    · rw [dif_neg finite, Bool.eq_false_iff.mpr finite, Option.isSome_none]
  | .list items => by
    rw [toJson?, isFinite, Option.isSome_map]
    exact isSome_itemsToJson? items
  | .bool _ | .int _ | .str _ | .date _ | .datetime _ | .formula _ => rfl

theorem isSome_itemsToJson? : (items : List Value) → (itemsToJson? items).isSome = allFinite items
  | [] => rfl
  | item :: rest => by
    rw [itemsToJson?, allFinite, ← isSome_toJson? item, ← isSome_itemsToJson? rest]
    cases toJson? item with
    | none => rfl
    | some document => rw [Option.isSome_map, Option.isSome_some, Bool.true_and]

end

theorem ofItems_cons (item : Json) (rest : List Json) {values : List Value}
    (outcome : ofItems (item :: rest) = .ok values) :
    ∃ value others, ofJson item = .ok value ∧ ofItems rest = .ok others ∧
      value :: others = values := by
  have noMapping : ∀ members, item = .mapping members → False := by
    rintro members rfl
    cases outcome
  rw [ofItems.eq_3 item rest noMapping] at outcome
  refine bind_cons_eq_ok_iff.mp (Eq.trans ?_ outcome)
  cases ofJson item with
  | error rejection => rfl
  | ok value => rfl

mutual

theorem isFinite_of_ofJson : (document : Json) → {value : Value} →
    ofJson document = .ok value → value.isFinite = true
  | .null, _, outcome => by cases outcome
  | .mapping _, _, outcome => by cases outcome
  | .bool _, _, outcome => by
    cases outcome
    rfl
  | .integer number, _, outcome => by
    unfold ofJson ofInteger at outcome
    split at outcome
    · cases outcome
      rfl
    · cases outcome
  | .float number, _, outcome => by
    cases outcome
    exact number.property
  | .string _, _, outcome => by
    cases outcome
    rfl
  | .list items, _, outcome => by
    obtain ⟨values, read, rfl⟩ := map_eq_ok_iff.mp outcome
    exact allFinite_of_ofItems items read

theorem allFinite_of_ofItems : (items : List Json) → {values : List Value} →
    ofItems items = .ok values → allFinite values = true
  | [], _, outcome => by
    cases outcome
    rfl
  | item :: rest, _, outcome => by
    obtain ⟨value, others, head, tail, rfl⟩ := ofItems_cons item rest outcome
    rw [allFinite, isFinite_of_ofJson item head, allFinite_of_ofItems rest tail, Bool.true_and]

end

/-! ### Coercion -/

theorem isFinite_of_fromInt {number : Int64} {target : Target} {result : Value}
    (converted : fromInt number target = some result) : result.isFinite = true := by
  cases target with
  | float =>
    rw [fromInt] at converted
    split at converted
    · rename_i exact
      cases converted
      exact Double.isFinite_ofInt exact (by decide)
    · cases converted
  | bool =>
    rw [fromInt] at converted
    split at converted
    · cases converted
      rfl
    · split at converted
      · cases converted
        rfl
      · cases converted
  | datetime =>
    obtain ⟨instant, _, rfl⟩ := Option.map_eq_some_iff.mp converted
    rfl
  | date =>
    obtain ⟨day, _, rfl⟩ := Option.map_eq_some_iff.mp converted
    rfl
  | int | str | formula =>
    cases converted
    rfl
  | list | sequence => cases converted

theorem isFinite_of_fromBool {flag : Bool} {target : Target} {result : Value}
    (converted : fromBool flag target = some result) : result.isFinite = true := by
  cases target with
  | float =>
    cases converted
    cases flag with
    | false => exact Double.isFinite_zero
    | true => exact Double.isFinite_one
  | bool | int | str =>
    cases converted
    rfl
  | list | sequence | date | datetime | formula => cases converted

theorem isFinite_of_fromFloat {number : Double} (finite : number.isFinite = true)
    {target : Target} {result : Value} (converted : fromFloat number target = some result) :
    result.isFinite = true := by
  cases target with
  | float =>
    cases converted
    exact finite
  | int =>
    obtain ⟨whole, _, rfl⟩ := Option.map_eq_some_iff.mp converted
    rfl
  | datetime =>
    obtain ⟨instant, _, rfl⟩ := Option.map_eq_some_iff.mp converted
    rfl
  | str | formula =>
    cases converted
    rfl
  | bool | list | sequence | date => cases converted

theorem isFinite_of_read? {text : List Char} {number : Double}
    (read : Double.read? text = some number) : number.isFinite = true := by
  unfold Double.read? at read
  dsimp only at read
  split at read
  · split at read
    · rename_i small
      cases read
      exact Double.isFinite_ofMagnitude _ small
    · cases read
  · cases read

theorem isFinite_of_readList? {text : String} {result : Value}
    (read : readList? text = some result) : result.isFinite = true := by
  unfold readList? at read
  split at read
  · rename_i items _
    cases listed : ofJson (.list items) with
    | error rejection =>
      rw [listed] at read
      cases read
    | ok value =>
      rw [listed] at read
      cases read
      exact isFinite_of_ofJson _ listed
  · cases read

theorem isFinite_of_fromStr {text : String} {target : Target} {result : Value}
    (converted : fromStr text target = some result) : result.isFinite = true := by
  cases target with
  | float =>
    obtain ⟨number, read, rfl⟩ := Option.map_eq_some_iff.mp converted
    exact isFinite_of_read? read
  | list | sequence => exact isFinite_of_readList? converted
  | int | bool | date | datetime =>
    obtain ⟨read, _, rfl⟩ := Option.map_eq_some_iff.mp converted
    rfl
  | str | formula =>
    cases converted
    rfl

/-- Only where a list stays a list does it matter what the items are. -/
theorem isFinite_of_fromList {items : List Value} {target : Target} {result : Value}
    (finite : target.isSequence = true → allFinite items = true)
    (converted : fromList items target = some result) : result.isFinite = true := by
  cases target with
  | list | sequence =>
    cases converted
    exact finite rfl
  | str =>
    obtain ⟨document, _, rfl⟩ := Option.map_eq_some_iff.mp converted
    rfl
  | int | bool | float | date | datetime | formula => cases converted

theorem isFinite_of_fromDate {day : Calendar.Date} {target : Target} {result : Value}
    (converted : fromDate day target = some result) : result.isFinite = true := by
  cases target with
  | float =>
    obtain ⟨instant, _, rfl⟩ := Option.map_eq_some_iff.mp converted
    exact Double.isFinite_ofInt (Double.natAbs_second_le instant) (by decide)
  | int | datetime =>
    obtain ⟨instant, _, rfl⟩ := Option.map_eq_some_iff.mp converted
    rfl
  | str | date =>
    cases converted
    rfl
  | bool | list | sequence | formula => cases converted

theorem isFinite_of_fromInstant {instant : Calendar.Instant} {target : Target} {result : Value}
    (converted : fromInstant instant target = some result) : result.isFinite = true := by
  cases target with
  | float =>
    cases converted
    exact Double.isFinite_ofSeconds instant
  | date =>
    obtain ⟨day, _, rfl⟩ := Option.map_eq_some_iff.mp converted
    rfl
  | int | str | datetime =>
    cases converted
    rfl
  | bool | list | sequence | formula => cases converted

theorem isFinite_of_fromFormula {text : String} {target : Target} {result : Value}
    (converted : fromFormula text target = some result) : result.isFinite = true := by
  cases target with
  | str | formula =>
    cases converted
    rfl
  | int | bool | float | list | sequence | date | datetime => cases converted

theorem isFinite_of_convert? {target : Target} {value result : Value}
    (finite : target.isSequence = true → value.isFinite = true)
    (converted : convert? target value = some result) : result.isFinite = true := by
  cases value with
  | bool flag => exact isFinite_of_fromBool converted
  | int number => exact isFinite_of_fromInt converted
  | float number =>
    rw [convert?] at converted
    split at converted
    · exact isFinite_of_fromFloat ‹_› converted
    · cases converted
  | str text => exact isFinite_of_fromStr converted
  | list items => exact isFinite_of_fromList finite converted
  | date day => exact isFinite_of_fromDate converted
  | datetime instant => exact isFinite_of_fromInstant converted
  | formula text => exact isFinite_of_fromFormula converted

/-- What a value is brought to has finite floats alone, if the value has or the kind is not that of
lists. -/
theorem isFinite_of_coerce {target : Target} {value result : Value}
    (finite : target.isSequence = true → value.isFinite = true)
    (coerced : coerce target value = .ok result) : result.isFinite = true :=
  isFinite_of_convert? finite (coerce_eq_ok_iff.mp coerced)

@[simp]
theorem coerceAll_cons (target : Target) (value : Value) (rest : List Value) :
    coerceAll target (value :: rest) =
      (coerce target value).bind fun converted =>
        (coerceAll target rest).map (converted :: ·) := by
  rw [coerceAll]
  cases coerce target value with
  | error fault => rfl
  | ok converted => rfl

theorem coerceAll_eq_mapM (target : Target) (values : List Value) :
    coerceAll target values = values.mapM (coerce target) := by
  induction values with
  | nil => rfl
  | cons value rest inductionHypothesis =>
    rw [coerceAll_cons, mapM_cons_eq_bind, inductionHypothesis]

theorem coerceAll_eq_ok_iff {target : Target} {values results : List Value} :
    coerceAll target values = .ok results ↔
      List.Forall₂ (fun value result => coerce target value = .ok result) values results := by
  rw [coerceAll_eq_mapM, mapM_eq_ok_iff]

theorem allFinite_of_coerceAll {target : Target} (noSequence : target.isSequence = false)
    {values results : List Value} (coerced : coerceAll target values = .ok results) :
    allFinite results = true := by
  rw [coerceAll_eq_ok_iff] at coerced
  induction coerced with
  | nil => rfl
  | @cons _ result _ _ head _ inductionHypothesis =>
    have finite : result.isFinite = true := by
      refine isFinite_of_coerce (fun sequence => ?_) head
      cases noSequence.symm.trans sequence
    rw [allFinite, finite, inductionHypothesis, Bool.true_and]

theorem isFinite_of_coerceEach {target : Target} {value result : Value}
    (finite : target.isSequence = true → value.isFinite = true)
    (coerced : coerceEach target value = .ok result) : result.isFinite = true := by
  cases value with
  | list items =>
    rw [coerceEach] at coerced
    split at coerced
    · exact isFinite_of_coerce finite coerced
    · obtain ⟨results, all, rfl⟩ := map_eq_ok_iff.mp coerced
      exact allFinite_of_coerceAll (Bool.eq_false_iff.mpr ‹_›) all
  | bool _ | int _ | float _ | str _ | date _ | datetime _ | formula _ =>
    exact isFinite_of_coerce finite coerced

/-! ### Floats that are no numbers -/

/-- A list is brought to the kind of lists by leaving it as it is. -/
theorem coerce_list {target : Target} (sequence : target.isSequence = true)
    (items : List Value) : coerce target (.list items) = .ok (.list items) := by
  cases target with
  | list | sequence => rfl
  | int | str | bool | float | date | datetime | formula => cases sequence

theorem coerce_float {target : Target} (sequence : target.isSequence = true)
    (number : Double) : coerce target (.float number) = .error ⟨.float, target⟩ := by
  have none : convert? target (.float number) = none := by
    rw [convert?]
    cases target with
    | list | sequence => exact ite_self none
    | int | str | bool | float | date | datetime | formula => cases sequence
  rw [coerce, none, kind]

/-- Where the kind is that of lists, there are no items to bring to it one by one. -/
theorem coerceEach_eq_coerce {target : Target} (sequence : target.isSequence = true)
    (value : Value) : coerceEach target value = coerce target value := by
  cases value with
  | list items => rw [coerceEach, if_pos sequence]
  | bool _ | int _ | float _ | str _ | date _ | datetime _ | formula _ => rfl

/-- Of the values that are brought to the kind of lists, only lists hold a float that is no number. -/
theorem kind_eq_list_of_coerce {target : Target} (sequence : target.isSequence = true)
    {value result : Value} (coerced : coerce target value = .ok result)
    (infinite : value.isFinite = false) : value.kind = .list := by
  cases value with
  | list items => rfl
  | float number => cases (coerce_float sequence number).symm.trans coerced
  | bool _ | int _ | str _ | date _ | datetime _ | formula _ => cases infinite

/-- When the outcome of a coercion, be it item by item or not, holds a float that is no number: exactly
when a list that holds one is brought to the kind of lists. Then the outcome is this list, as it
was. -/
theorem only_kept_lists_hold_nonfinite {target : Target} {value result : Value}
    (coerced : coerce target value = .ok result ∨ coerceEach target value = .ok result) :
    (result.isFinite = false ↔
        target.isSequence = true ∧ value.kind = .list ∧ value.isFinite = false) ∧
      (result.isFinite = false → result = value) := by
  have finite : (target.isSequence = true → value.isFinite = true) → result.isFinite = true := by
    intro finite
    rcases coerced with whole | each
    · exact isFinite_of_coerce finite whole
    · exact isFinite_of_coerceEach finite each
  have whole : target.isSequence = true → coerce target value = .ok result := by
    intro sequence
    rwa [coerceEach_eq_coerce sequence, or_self] at coerced
  have kept : target.isSequence = true → value.kind = .list → result = value := by
    intro sequence list
    have same := whole sequence
    cases value with
    | list items =>
      rw [coerce_list sequence items] at same
      cases same
      rfl
    | bool _ | int _ | float _ | str _ | date _ | datetime _ | formula _ => cases list
  have forward : result.isFinite = false →
      target.isSequence = true ∧ value.kind = .list ∧ value.isFinite = false := by
    intro infinite
    have cause : ¬(target.isSequence = true → value.isFinite = true) := by
      intro harmless
      cases (finite harmless).symm.trans infinite
    rw [Classical.not_imp, Bool.not_eq_true] at cause
    exact ⟨cause.1, kind_eq_list_of_coerce cause.1 (whole cause.1) cause.2, cause.2⟩
  refine ⟨⟨forward, ?_⟩, ?_⟩
  · rintro ⟨sequence, list, infinite⟩
    rw [kept sequence list]
    exact infinite
  · intro infinite
    obtain ⟨sequence, list, _⟩ := forward infinite
    exact kept sequence list

theorem nested_infinity_is_kept :
    let infinity := Double.ofMagnitude true Double.infiniteMagnitude
    let list := Value.list [.int 1, .list [.float infinity]]
    coerceEach .sequence list = .ok list ∧ list.isFinite = false := by
  intro infinity list
  have kept : coerceEach .sequence list = .ok list := rfl
  obtain ⟨when_infinite, _⟩ := only_kept_lists_hold_nonfinite (Or.inr kept)
  exact ⟨kept, when_infinite.mpr ⟨rfl, rfl, by decide⟩⟩

/-- A list of a float that is undefined is brought to a list, and the outcome holds this float. -/
theorem list_keeps_undefined_float :
    let undefined : Double := ⟨0x7FF8000000000000⟩
    let list := Value.list [.float undefined]
    undefined.isNaN = true ∧ coerce .list list = .ok list ∧ list.isFinite = false :=
  ⟨by decide, rfl, by decide⟩

end Sieve.Value
