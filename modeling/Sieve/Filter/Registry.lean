/-
The table of operators. Operators are registered one after another; a marker that
is no marker, a category that does not fit and a marker that is taken are refused,
in this order, and a refusal leaves the table as it was. An operator is looked up
through an index, which knows the position of every marker. The standard table has
eleven operators.
-/

import Sieve.Filter.Operator
import Sieve.Table

namespace Sieve.Filter

variable {γ φ : Type}

structure Registry (γ : Type := Connective) (φ : Type := Operation) where
  operators : List (Operator γ φ)
  distinct : (operators.map Operator.marker).Nodup

/-- Why an operator cannot be registered. -/
inductive RegistrationFault where
  | invalidMarker (marker : String)
  | unfitCategory (marker : String) (category : Category)
  | duplicateMarker (marker : String)
deriving DecidableEq, Repr

def RegistrationFault.message : RegistrationFault → String
  | .invalidMarker marker => s!"operator marker '{marker}' must start with the operator sigil"
  | .unfitCategory marker category =>
    s!"operator '{marker}' cannot be registered as {category.name}"
  | .duplicateMarker marker => s!"operator '{marker}' is already registered"

namespace Registry

def empty : Registry γ φ :=
  ⟨[], List.nodup_nil⟩

/-- The marker of each operator with its position, which is counted from a number on. -/
def positions (operators : List (Operator γ φ)) (start : Nat) : List (String × Nat) :=
  (operators.zipIdx start).map fun entry => (entry.1.marker, entry.2)

/-- The position of each marker; of operators with one marker, that of the last. -/
def index (registry : Registry γ φ) : List (String × Nat) :=
  Table.merge [] (positions registry.operators 0)

/-- The operator with a marker, found by its position. -/
def resolve? (registry : Registry γ φ) (marker : String) : Option (Operator γ φ) :=
  (registry.index.lookup marker).bind fun position => registry.operators[position]?

@[simp]
theorem keys_positions (operators : List (Operator γ φ)) (start : Nat) :
    Table.keys (positions operators start) = operators.map Operator.marker := by
  induction operators generalizing start with
  | nil => rfl
  | cons operator rest inductionHypothesis =>
    exact congrArg (operator.marker :: ·) (inductionHypothesis (start + 1))

/-- As no marker comes twice, writing the positions down one after another overwrites none. -/
theorem index_eq_positions (registry : Registry γ φ) :
    registry.index = positions registry.operators 0 := by
  refine Table.merge_of_nodup ?_
  rw [List.nil_append, keys_positions]
  exact registry.distinct

theorem lookup_positions (operators : List (Operator γ φ)) (start : Nat) (marker : String) :
    (positions operators start).lookup marker =
      (operators.findIdx? fun operator => operator.marker = marker).map (· + start) := by
  induction operators generalizing start with
  | nil => rfl
  | cons operator rest inductionHypothesis =>
    have tail := inductionHypothesis (start + 1)
    simp only [positions, List.zipIdx_cons, List.map_cons, List.lookup_cons,
      List.findIdx?_cons] at tail ⊢
    by_cases same : operator.marker = marker
    · simp [same]
    · have other : (marker == operator.marker) = false := beq_false_of_ne (Ne.symm same)
      rw [other, tail, if_neg (by simpa using same), Option.map_map]
      exact congrArg (Option.map · _) (funext fun position => by simp; omega)

/-- Looking a marker up in the index finds what a search through the table finds. -/
theorem resolve?_eq_find? (registry : Registry γ φ) (marker : String) :
    registry.resolve? marker =
      registry.operators.find? fun operator => operator.marker = marker := by
  rw [resolve?, index_eq_positions, lookup_positions, List.find?_eq_bind_findIdx?_getElem?,
    Option.bind_map]
  rfl

theorem nodup_append_operator {operators : List (Operator γ φ)} {operator : Operator γ φ}
    (distinct : (operators.map Operator.marker).Nodup)
    (fresh : operator.marker ∉ operators.map Operator.marker) :
    ((operators ++ [operator]).map Operator.marker).Nodup := by
  rw [List.map_append, List.nodup_append]
  refine ⟨distinct, by simp, fun marker member other last => ?_⟩
  rw [List.map_cons, List.map_nil, List.mem_singleton] at last
  rintro rfl
  exact fresh (last ▸ member)

/-- The table with one more operator at its end. -/
def add (registry : Registry γ φ) (operator : Operator γ φ) :
    Except RegistrationFault (Registry γ φ) :=
  if taken : operator.marker ∈ registry.operators.map Operator.marker then
    .error (.duplicateMarker operator.marker)
  else .ok ⟨registry.operators ++ [operator], nodup_append_operator registry.distinct taken⟩

/-- Registers an operator. -/
def register (registry : Registry γ φ) (marker : String) (category : Category)
    (builder : Builder γ φ) : Except RegistrationFault (Registry γ φ) :=
  if marked : isMarker marker = true then
    if fitting : builder.isLogical = decide (category = .logical) then
      registry.add ⟨marker, category, builder, marked, fitting⟩
    else .error (.unfitCategory marker category)
  else .error (.invalidMarker marker)

def size (registry : Registry γ φ) : Nat :=
  registry.operators.length

def isEmpty (registry : Registry γ φ) : Bool :=
  registry.operators.isEmpty

/-! ### The standard table -/

/-- The eleven operators that filters are written with. -/
def standardOperators : List Operator :=
  [⟨"@and", .logical, .logical .and, by decide, rfl⟩,
   ⟨"@or", .logical, .logical .or, by decide, rfl⟩,
   ⟨"@nor", .logical, .logical .nor, by decide, rfl⟩,
   ⟨"@eq", .comparison, .field (.compare .eq), by decide, rfl⟩,
   ⟨"@ne", .comparison, .field (.compare .ne), by decide, rfl⟩,
   ⟨"@gt", .comparison, .field (.compare .gt), by decide, rfl⟩,
   ⟨"@gte", .comparison, .field (.compare .gte), by decide, rfl⟩,
   ⟨"@lt", .comparison, .field (.compare .lt), by decide, rfl⟩,
   ⟨"@lte", .comparison, .field (.compare .lte), by decide, rfl⟩,
   ⟨"@exists", .element, .field .presence, by decide, rfl⟩,
   ⟨"@regex", .evaluation, .field .matching, by decide, rfl⟩]

def standard : Registry :=
  ⟨standardOperators, by simp [standardOperators]⟩

/-! ### The table as text -/

/-- One line for an operator: the marker, filled up to ten characters, and the category. -/
def line (operator : Operator) : String :=
  let width := 10 - operator.marker.length
  operator.marker ++ String.ofList (List.replicate width ' ') ++ " " ++ operator.category.name ++ "\n"

/-- The operators, one in a line. -/
def listing (registry : Registry) : String :=
  String.join (registry.operators.map line)

end Registry

end Sieve.Filter
