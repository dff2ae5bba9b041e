/-
What lowering a filter to a clause comes to. `Lowered` is the relation behind the
function: a leaf takes the next parameters and becomes the clause of its condition, and a
group hands the parameters of each child on to the next one. Everything that is proved
about clauses goes along this relation, leaf by leaf and child by child, and never looks
at the walk of the function.

A filter can be lowered, in every dialect alike, exactly when it is renderable: the floats
that it binds are finite, none of its groups is empty, and it asks no list for an order.
-/

import Sieve.Proofs.Filter.WellFormed
import Sieve.Sql.Statement

namespace Sieve.Sql

open Sieve.Filter (Comparison Condition Connective Defect Tree)

/-! ### Operands that can be bound -/

namespace Parameter

theorem exists_ofText_iff_list {items : List Value} :
    (∃ parameter, ofText (.list items) = .ok parameter) ↔ Value.allFinite items = true := by
  rw [← Value.isFinite, ← Value.isSome_toJson?]
  unfold ofText Value.coerce
  rw [Value.convert?, Value.fromList]
  cases Value.toJson? (.list items) with
  | none => simp
  | some document => simp

/-- The operands that can be bound are those whose floats are finite. -/
theorem exists_ofValue_iff {operand : Value} :
    (∃ parameter, ofValue operand = .ok parameter) ↔ operand.isFinite = true := by
  cases operand with
  | float number =>
    rw [ofValue, Value.isFinite]
    split
    · simp [*]
    · simp [*]
  | list items => exact exists_ofText_iff_list
  | bool _ | int _ | str _ | formula _ | date _ | datetime _ => exact ⟨fun _ => rfl, fun _ => ⟨_, rfl⟩⟩

@[simp]
theorem ofValues_cons (operand : Value) (rest : List Value) :
    ofValues (operand :: rest) =
      (ofValue operand).bind fun parameter => (ofValues rest).map (parameter :: ·) := by
  rw [ofValues]
  cases ofValue operand with
  | error defect => rfl
  | ok parameter => rfl

theorem ofValues_eq_mapM (operands : List Value) : ofValues operands = operands.mapM ofValue := by
  induction operands with
  | nil => rfl
  | cons operand rest inductionHypothesis =>
    rw [ofValues_cons, mapM_cons_eq_bind, inductionHypothesis]

theorem ofValues_eq_ok_iff {operands : List Value} {parameters : List Parameter} :
    ofValues operands = .ok parameters ↔
      List.Forall₂ (fun operand parameter => ofValue operand = .ok parameter) operands
        parameters := by
  rw [ofValues_eq_mapM, mapM_eq_ok_iff]

theorem exists_ofValues_iff {operands : List Value} :
    (∃ parameters, ofValues operands = .ok parameters) ↔ Value.allFinite operands = true := by
  rw [ofValues_eq_mapM, exists_mapM_eq_ok_iff, Value.allFinite_iff]
  exact forall₂_congr fun _ _ => exists_ofValue_iff

theorem length_of_ofValues {operands : List Value} {parameters : List Parameter}
    (bound : ofValues operands = .ok parameters) : parameters.length = operands.length :=
  (ofValues_eq_ok_iff.mp bound).length_eq.symm

end Parameter

/-! ### Conditions and their parameters -/

/-- The parameters of a condition, case by case. -/
inductive Binding (dialect : Dialect) : Condition → List Parameter → Prop where
  | present (wanted : Bool) : Binding dialect (.present wanted) []
  | matching (pattern : String) :
    Binding dialect (.matching pattern) [.string (dialect.pattern pattern)]
  | list {comparison : Comparison} {items : List Value} {parameters : List Parameter}
    (unordered : comparison.isRange = false) (made : Parameter.ofValues items = .ok parameters) :
    Binding dialect (.compare comparison (.list items)) parameters
  | single (comparison : Comparison) {operand : Value} {parameter : Parameter}
    (single : operand.kind ≠ .list) (made : Parameter.ofValue operand = .ok parameter) :
    Binding dialect (.compare comparison operand) [parameter]

theorem parametersOf_list (dialect : Dialect) (field : String) {comparison : Comparison}
    (items : List Value) (unordered : comparison.isRange = false) :
    parametersOf dialect field (.compare comparison (.list items)) =
      Parameter.ofValues items := by
  rw [parametersOf, if_neg (Bool.eq_false_iff.mp unordered)]

theorem parametersOf_single (dialect : Dialect) (field : String) (comparison : Comparison)
    {operand : Value} (single : operand.kind ≠ .list) :
    parametersOf dialect field (.compare comparison operand) =
      (Parameter.ofValue operand).map fun parameter => [parameter] := by
  cases operand with
  | list items => exact absurd rfl single
  | _ => rfl

theorem parametersOf_eq_ok_iff {dialect : Dialect} {field : String} {condition : Condition}
    {parameters : List Parameter} :
    parametersOf dialect field condition = .ok parameters ↔
      Binding dialect condition parameters := by
  constructor
  · intro made
    cases condition with
    | present wanted =>
      cases made
      exact .present wanted
    | matching pattern =>
      cases made
      exact .matching pattern
    | compare comparison operand =>
      by_cases list : operand.kind = .list
      · obtain ⟨items, rfl⟩ := Value.exists_list_of_kind list
        by_cases ordered : comparison.isRange = true
        · rw [parametersOf, if_pos ordered] at made
          cases made
        · have unordered := Bool.eq_false_iff.mpr ordered
          rw [parametersOf_list dialect field items unordered] at made
          exact .list unordered made
      · rw [parametersOf_single dialect field comparison list] at made
        obtain ⟨parameter, bound, rfl⟩ := map_eq_ok_iff.mp made
        exact .single comparison list bound
  · intro binding
    cases binding with
    | present wanted => rfl
    | matching pattern => rfl
    | list unordered made => rw [parametersOf_list dialect field _ unordered, made]
    | single comparison single made =>
      rw [parametersOf_single dialect field comparison single, made]
      rfl

/-- The conditions that have parameters are the renderable ones. -/
theorem exists_binding_iff {dialect : Dialect} {condition : Condition} :
    (∃ parameters, Binding dialect condition parameters) ↔ condition.IsRenderable := by
  constructor
  · rintro ⟨parameters, binding⟩
    cases binding with
    | present wanted => exact ⟨trivial, trivial⟩
    | matching pattern => exact ⟨trivial, trivial⟩
    | list unordered made => exact ⟨Parameter.exists_ofValues_iff.mp ⟨_, made⟩, unordered⟩
    | @single comparison operand _ single made =>
      refine ⟨Parameter.exists_ofValue_iff.mp ⟨_, made⟩, ?_⟩
      cases operand with
      | list items => exact absurd rfl single
      | _ => trivial
  · rintro ⟨finite, ordered⟩
    cases condition with
    | present wanted => exact ⟨[], .present wanted⟩
    | matching pattern => exact ⟨_, .matching pattern⟩
    | compare comparison operand =>
      by_cases list : operand.kind = .list
      · obtain ⟨items, rfl⟩ := Value.exists_list_of_kind list
        obtain ⟨parameters, made⟩ := Parameter.exists_ofValues_iff.mpr finite
        exact ⟨parameters, .list ordered made⟩
      · obtain ⟨parameter, made⟩ := Parameter.exists_ofValue_iff.mpr finite
        exact ⟨[parameter], .single comparison list made⟩

/-- The clause that a field compares with a single operand. -/
def singleClause (field : String) (comparison : Comparison) (slot : Nat) : Clause :=
  match comparison with
  | .ne => .differs field slot
  | _ => .relates field (relation comparison) slot

theorem clauseOf_single (field : String) (bound : Parameters) (comparison : Comparison)
    {operand : Value} (single : operand.kind ≠ .list) :
    clauseOf field bound (.compare comparison operand) =
      singleClause field comparison (bound.size + 1) := by
  cases operand with
  | list items => exact absurd rfl single
  | _ => cases comparison <;> rfl

/-! ### Lowering as a relation -/

mutual

/-- A filter becomes a clause, and the parameters before it become those up to its end. -/
inductive Lowered (dialect : Dialect) : Parameters → Tree → Clause → Parameters → Prop where
  | leaf {bound : Parameters} {field : String} {condition : Condition}
    {parameters : List Parameter} (binding : Binding dialect condition parameters) :
    Lowered dialect bound (.leaf field condition) (clauseOf field bound condition)
      (bound.append parameters)
  | group {bound after : Parameters} {connective : Connective} {children : List Tree}
    {parts : List Clause} (nonempty : children ≠ [])
    (each : LoweredAll dialect bound children parts after) :
    Lowered dialect bound (.group connective children) (.joined connective parts) after

/-- Filters become clauses one after another. -/
inductive LoweredAll (dialect : Dialect) :
    Parameters → List Tree → List Clause → Parameters → Prop where
  | nil {bound : Parameters} : LoweredAll dialect bound [] [] bound
  | cons {bound middle after : Parameters} {tree : Tree} {rest : List Tree} {clause : Clause}
    {parts : List Clause} (head : Lowered dialect bound tree clause middle)
    (tail : LoweredAll dialect middle rest parts after) :
    LoweredAll dialect bound (tree :: rest) (clause :: parts) after

end

@[simp]
theorem lower_leaf (dialect : Dialect) (bound : Parameters) (field : String)
    (condition : Condition) :
    lower dialect bound (.leaf field condition) =
      (parametersOf dialect field condition).map fun parameters =>
        (clauseOf field bound condition, bound.append parameters) := by
  simp only [lower, Parameters.pushAll_eq]

theorem lower_group (dialect : Dialect) (bound : Parameters) (connective : Connective)
    {children : List Tree} (nonempty : children ≠ []) :
    lower dialect bound (.group connective children) =
      (lowerAll dialect bound children).map fun lowered =>
        (.joined connective lowered.1, lowered.2) := by
  rw [lower, if_neg (by simpa using nonempty)]

@[simp]
theorem lowerAll_cons (dialect : Dialect) (bound : Parameters) (tree : Tree) (rest : List Tree) :
    lowerAll dialect bound (tree :: rest) =
      (lower dialect bound tree).bind fun first =>
        (lowerAll dialect first.2 rest).map fun others =>
          (first.1 :: others.1, others.2) := by
  rw [lowerAll]
  cases lower dialect bound tree with
  | error defect => rfl
  | ok first => rfl

mutual

theorem lowered_of_lower {dialect : Dialect} : (tree : Tree) → {bound after : Parameters} →
    {clause : Clause} → lower dialect bound tree = .ok (clause, after) →
    Lowered dialect bound tree clause after
  | .leaf field condition, bound, after, clause, lowered => by
    rw [lower_leaf] at lowered
    obtain ⟨parameters, made, same⟩ := map_eq_ok_iff.mp lowered
    cases same
    exact .leaf (parametersOf_eq_ok_iff.mp made)
  | .group connective children, bound, after, clause, lowered => by
    by_cases empty : children = []
    · subst empty
      cases lowered
    · rw [lower_group dialect bound connective empty] at lowered
      obtain ⟨⟨parts, last⟩, all, same⟩ := map_eq_ok_iff.mp lowered
      cases same
      exact .group empty (loweredAll_of_lowerAll children all)

theorem loweredAll_of_lowerAll {dialect : Dialect} : (trees : List Tree) →
    {bound after : Parameters} → {parts : List Clause} →
    lowerAll dialect bound trees = .ok (parts, after) → LoweredAll dialect bound trees parts after
  | [], bound, after, parts, lowered => by
    cases lowered
    exact .nil
  | tree :: rest, bound, after, parts, lowered => by
    rw [lowerAll_cons] at lowered
    obtain ⟨⟨clause, middle⟩, head, others⟩ := bind_eq_ok_iff.mp lowered
    obtain ⟨⟨clauses, last⟩, tail, same⟩ := map_eq_ok_iff.mp others
    cases same
    exact .cons (lowered_of_lower tree head) (loweredAll_of_lowerAll rest tail)

end

mutual

theorem lower_of_lowered {dialect : Dialect} {bound after : Parameters} {tree : Tree}
    {clause : Clause} : Lowered dialect bound tree clause after →
    lower dialect bound tree = .ok (clause, after)
  | .leaf binding => by
    rw [lower_leaf]
    exact map_eq_ok_iff.mpr ⟨_, parametersOf_eq_ok_iff.mpr binding, rfl⟩
  | .group nonempty each => by
    rw [lower_group dialect bound _ nonempty]
    exact map_eq_ok_iff.mpr ⟨_, lowerAll_of_loweredAll each, rfl⟩

theorem lowerAll_of_loweredAll {dialect : Dialect} {bound after : Parameters}
    {trees : List Tree} {parts : List Clause} : LoweredAll dialect bound trees parts after →
    lowerAll dialect bound trees = .ok (parts, after)
  | .nil => rfl
  | .cons head tail => by
    rw [lowerAll_cons]
    exact bind_eq_ok_iff.mpr ⟨_, lower_of_lowered head,
      map_eq_ok_iff.mpr ⟨_, lowerAll_of_loweredAll tail, rfl⟩⟩

end

/-- A statement is the outcome of lowering a tree within the limit. -/
theorem ofTree_eq_ok_iff {dialect : Dialect} {limit : Nat} {tree : Tree} {statement : Statement} :
    Statement.ofTree dialect limit tree = .ok statement ↔
      tree.depth ≤ limit ∧
        Lowered dialect .empty tree statement.clause statement.parameters := by
  unfold Statement.ofTree Tree.checkDepth
  by_cases shallow : tree.depth ≤ limit
  · rw [if_pos shallow]
    constructor
    · intro made
      obtain ⟨⟨clause, parameters⟩, lowered, rfl⟩ := map_eq_ok_iff.mp made
      exact ⟨shallow, lowered_of_lower tree lowered⟩
    · rintro ⟨_, lowered⟩
      exact map_eq_ok_iff.mpr ⟨_, lower_of_lowered lowered, rfl⟩
  · rw [if_neg shallow]
    constructor
    · intro made
      cases made
    · intro accepted
      exact absurd accepted.1 shallow

/-! ### Which filters can be lowered -/

theorem loweredAll_of_forall {dialect : Dialect} {trees : List Tree}
    (each : ∀ tree ∈ trees, ∀ bound, ∃ clause after, Lowered dialect bound tree clause after)
    (bound : Parameters) : ∃ parts after, LoweredAll dialect bound trees parts after := by
  induction trees generalizing bound with
  | nil => exact ⟨[], bound, .nil⟩
  | cons tree rest inductionHypothesis =>
    obtain ⟨headEach, restEach⟩ := List.forall_mem_cons.mp each
    obtain ⟨clause, middle, head⟩ := headEach bound
    obtain ⟨parts, after, tail⟩ := inductionHypothesis restEach middle
    exact ⟨clause :: parts, after, .cons head tail⟩

theorem exists_lowered (dialect : Dialect) {tree : Tree} (renderable : tree.IsRenderable) :
    ∀ bound, ∃ clause after, Lowered dialect bound tree clause after := by
  unfold Tree.IsRenderable at renderable
  induction renderable with
  | leaf kept =>
    intro bound
    obtain ⟨parameters, binding⟩ := exists_binding_iff.mpr kept
    exact ⟨_, _, .leaf binding⟩
  | group nonempty _ inductionHypothesis =>
    intro bound
    obtain ⟨parts, after, each⟩ := loweredAll_of_forall inductionHypothesis bound
    exact ⟨_, after, .group nonempty each⟩

mutual

theorem Lowered.isRenderable {dialect : Dialect} {bound after : Parameters} {tree : Tree}
    {clause : Clause} : Lowered dialect bound tree clause after → tree.IsRenderable
  | .leaf binding => .leaf (exists_binding_iff.mp ⟨_, binding⟩)
  | .group nonempty each => .group nonempty (LoweredAll.isRenderable each)

theorem LoweredAll.isRenderable {dialect : Dialect} {bound after : Parameters}
    {trees : List Tree} {parts : List Clause} : LoweredAll dialect bound trees parts after →
    ∀ tree ∈ trees, tree.IsRenderable
  | .nil => fun _ member => absurd member List.not_mem_nil
  | .cons head tail => List.forall_mem_cons.mpr ⟨head.isRenderable, LoweredAll.isRenderable tail⟩

end

/-- The filters that have a statement are the renderable ones within the limit. -/
theorem exists_ofTree_iff {dialect : Dialect} {limit : Nat} {tree : Tree} :
    (∃ statement, Statement.ofTree dialect limit tree = .ok statement) ↔
      tree.depth ≤ limit ∧ tree.IsRenderable := by
  constructor
  · rintro ⟨statement, made⟩
    obtain ⟨shallow, lowered⟩ := ofTree_eq_ok_iff.mp made
    exact ⟨shallow, lowered.isRenderable⟩
  · rintro ⟨shallow, renderable⟩
    obtain ⟨clause, after, lowered⟩ := exists_lowered dialect renderable .empty
    exact ⟨⟨clause, after⟩, ofTree_eq_ok_iff.mpr ⟨shallow, lowered⟩⟩

end Sieve.Sql
