/-
This file proves that the text of a query means what the filter means. A row may lack
values, and then comparisons are unknown; but a condition is met or not in any case. What
is compared is whether an expression is true, for a database takes the rows on which the
condition is true and no others.

Being true goes along with `AND` and `OR` as it does for two truths. It does not go along
with `NOT`, so the clauses negate nothing that may be unknown: a group of which no part may
hold takes unknown for false before it is negated, and an unequal value also lets a missing
value pass. That is all that has to be seen at the leaves and at each connective.
-/

import Sieve.Proofs.Filter.Meaning
import Sieve.Proofs.Sql.Reading

namespace Sieve.Sql

open Sieve.Filter (Comparison Condition Connective Tree)

variable {Datum : Type}

/-! ### What conditions mean -/

namespace World

/-- Whether a relation holds between a value and an operand, as the operand is bound. -/
def bound (relation : Datum → Parameter → Bool) (datum : Datum) (operand : Value) : Bool :=
  match Parameter.ofValue operand with
  | .ok parameter => relation datum parameter
  | .error _ => false

/-- Whether a value equals an operand, or one item of a list. -/
def equals (world : World Datum) (datum : Datum) : Value → Bool
  | .list items => items.any (bound world.equal datum)
  | operand => bound world.equal datum operand

/-- Whether a condition holds on a field of a row. Only an unequal value and an absent one hold
where the value is missing. -/
def meets (world : World Datum) (dialect : Dialect) (row : String → Option Datum)
    (field : String) : Condition → Bool
  | .compare .eq operand => (row field).any fun datum => world.equals datum operand
  | .compare .ne operand => !(row field).any fun datum => world.equals datum operand
  | .compare .gt operand => (row field).any fun datum => bound world.greater datum operand
  | .compare .gte operand => (row field).any fun datum => bound world.greaterOrEqual datum operand
  | .compare .lt operand => (row field).any fun datum => bound world.less datum operand
  | .compare .lte operand => (row field).any fun datum => bound world.lessOrEqual datum operand
  | .present wanted => (row field).isSome == wanted
  | .matching pattern =>
    (row field).any fun datum => world.matching datum (.string (dialect.pattern pattern))

end World

/-! ### Being true -/

namespace Truth

def isTrue : Truth → Bool
  | .holds => true
  | .fails => false
  | .unknown => false

theorem isTrue_iff {truth : Truth} : truth.isTrue = true ↔ truth = .holds := by
  cases truth <;> decide

@[simp]
theorem isTrue_ofBool (truth : Bool) : (ofBool truth).isTrue = truth := by
  cases truth <;> rfl

@[simp]
theorem isTrue_both (left right : Truth) :
    (left.both right).isTrue = (left.isTrue && right.isTrue) := by
  cases left <;> cases right <;> rfl

@[simp]
theorem isTrue_either (left right : Truth) :
    (left.either right).isTrue = (left.isTrue || right.isTrue) := by
  cases left <;> cases right <;> rfl

/-- With unknown taken for false, a negation is true exactly where its inner truth is not. -/
@[simp]
theorem isTrue_negate_coalesce (truth : Truth) :
    (truth.coalesce .fails).negate.isTrue = !truth.isTrue := by
  cases truth <;> rfl

end Truth

@[simp]
theorem isTrue_tested (relation : Datum → Parameter → Bool) (datum? : Option Datum)
    (parameter : Parameter) :
    (tested relation datum? (some parameter)).isTrue =
      datum?.any fun datum => relation datum parameter := by
  cases datum? with
  | none => rfl
  | some datum => exact Truth.isTrue_ofBool (relation datum parameter)

/-- The negation of a comparison, where a missing value passes, is true exactly where the
comparison is not. -/
theorem isTrue_differs (relation : Datum → Parameter → Bool) (datum? : Option Datum)
    (parameter : Parameter) :
    ((tested relation datum? (some parameter)).negate.either (.ofBool datum?.isNone)).isTrue =
      !datum?.any fun datum => relation datum parameter := by
  cases datum? with
  | none => rfl
  | some datum =>
    show ((Truth.ofBool (relation datum parameter)).negate.either .fails).isTrue =
      !relation datum parameter
    cases relation datum parameter <;> rfl

/-! ### Lists -/

/-- Whether a value equals one of some parameters. -/
def equalsOne (world : World Datum) (datum? : Option Datum) (parameters : List Parameter) :
    Truth :=
  parameters.foldr
    (fun parameter others => (tested world.equal datum? (some parameter)).either others) .fails

@[simp]
theorem equalsOne_some (world : World Datum) (datum : Datum) (parameters : List Parameter) :
    equalsOne world (some datum) parameters = .ofBool (parameters.any (world.equal datum)) := by
  induction parameters with
  | nil => rfl
  | cons parameter rest inductionHypothesis =>
    show (Truth.ofBool (world.equal datum parameter)).either
      (equalsOne world (some datum) rest) = _
    rw [inductionHypothesis, List.any_cons]
    cases world.equal datum parameter <;> cases rest.any (world.equal datum) <;> rfl

theorem equalsOne_none (world : World Datum) {parameters : List Parameter}
    (nonempty : parameters ≠ []) : equalsOne world none parameters = .unknown := by
  induction parameters with
  | nil => exact absurd rfl nonempty
  | cons parameter rest inductionHypothesis =>
    show Truth.unknown.either (equalsOne world none rest) = .unknown
    cases rest with
    | nil => rfl
    | cons next rest =>
      rw [inductionHypothesis (List.cons_ne_nil next rest)]
      rfl

theorem isTrue_equalsOne (world : World Datum) (datum? : Option Datum)
    {parameters : List Parameter} (nonempty : parameters ≠ []) :
    (equalsOne world datum? parameters).isTrue =
      datum?.any fun datum => parameters.any (world.equal datum) := by
  cases datum? with
  | none => rw [equalsOne_none world nonempty, Truth.isTrue, Option.any_none]
  | some datum => simp

/-- The negation of a list, where a missing value passes. -/
theorem isTrue_notAmong (world : World Datum) (datum? : Option Datum)
    {parameters : List Parameter} (nonempty : parameters ≠ []) :
    ((equalsOne world datum? parameters).negate.either (.ofBool datum?.isNone)).isTrue =
      !datum?.any fun datum => parameters.any (world.equal datum) := by
  cases datum? with
  | none =>
    rw [equalsOne_none world nonempty]
    rfl
  | some datum =>
    rw [equalsOne_some, Option.any_some]
    cases parameters.any (world.equal datum) <;> rfl

theorem any_bound_of_ofValues (relation : Datum → Parameter → Bool) (datum : Datum)
    {items : List Value} {parameters : List Parameter}
    (made : Parameter.ofValues items = .ok parameters) :
    items.any (World.bound relation datum) = parameters.any (relation datum) := by
  rw [Parameter.ofValues_eq_ok_iff] at made
  induction made with
  | nil => rfl
  | cons head _ inductionHypothesis =>
    rw [List.any_cons, List.any_cons, inductionHypothesis, World.bound, head]

theorem bound_of_ofValue (relation : Datum → Parameter → Bool) (datum : Datum) {operand : Value}
    {parameter : Parameter} (made : Parameter.ofValue operand = .ok parameter) :
    World.bound relation datum operand = relation datum parameter := by
  rw [World.bound, made]

/-! ### Parameters -/

theorem parameterAt_append (before : List Parameter) {more rest : List Parameter} (index : Nat)
    (inside : index < more.length) :
    parameterAt (before ++ more ++ rest) (before.length + 1 + index) = more[index]? := by
  have place : before.length + 1 + index = before.length + index + 1 := by omega
  have shorter : before.length + index < (before ++ more).length := by
    rw [List.length_append]
    omega
  rw [place, parameterAt, List.getElem?_append_left shorter,
    List.getElem?_append_right (Nat.le_add_right _ _), Nat.add_sub_cancel_left]

/-- The parameters that a clause refers to are the ones that were added for it. -/
theorem map_parameterAt_slots {bound : Parameters} {more values : List Parameter}
    (fits : (bound.append more).values <+: values) :
    (bound.slots more.length).map (parameterAt values) = more.map some := by
  obtain ⟨rest, rfl⟩ := fits
  refine List.ext_getElem? fun index => ?_
  rw [List.getElem?_map, List.getElem?_map, Parameters.slots]
  by_cases inside : index < more.length
  · rw [List.getElem?_range' inside, Option.map_some, Nat.one_mul]
    show some (parameterAt (bound.values ++ more ++ rest) (bound.values.length + 1 + index)) = _
    rw [parameterAt_append bound.values index inside, List.getElem?_eq_getElem inside]
    rfl
  · have outside := Nat.le_of_not_lt inside
    rw [List.getElem?_eq_none outside, List.getElem?_eq_none (by rwa [List.length_range'])]
    rfl

theorem parameterAt_single {bound : Parameters} {parameter : Parameter} {values : List Parameter}
    (fits : (bound.append [parameter]).values <+: values) :
    parameterAt values (bound.size + 1) = some parameter :=
  (List.cons.inj (map_parameterAt_slots fits)).1

/-! ### Leaves -/

variable {dialect : Dialect} {world : World Datum} {row : String → Option Datum}

theorem foldr_among (slots : List Nat) {column : String} {values parameters : List Parameter}
    (found : slots.map (parameterAt values) = parameters.map some) :
    (Expression.among column slots).truth world row values =
      equalsOne world (row column) parameters := by
  have sides := congrArg
    (List.foldr (fun parameter? others => (tested world.equal (row column) parameter?).either others)
      .fails) found
  rw [List.foldr_map, List.foldr_map] at sides
  exact sides

theorem isTrue_listClause {field : String} {comparison : Comparison} {items : List Value}
    {parameters values : List Parameter} {bound : Parameters}
    (unordered : comparison.isRange = false) (made : Parameter.ofValues items = .ok parameters)
    (fits : (bound.append parameters).values <+: values) :
    ((listClause field comparison (bound.slots items.length)).expression.truth world row
        values).isTrue =
      world.meets dialect row field (.compare comparison (.list items)) := by
  have equals : ∀ datum, world.equals datum (.list items) = parameters.any (world.equal datum) :=
    fun datum => any_bound_of_ofValues world.equal datum made
  have found := map_parameterAt_slots fits
  rw [Parameter.length_of_ofValues made] at found
  cases items with
  | nil =>
    cases comparison with
    | eq =>
      show false = (row field).any fun _ => false
      cases row field <;> rfl
    | ne =>
      show true = !(row field).any fun _ => false
      cases row field <;> rfl
    | _ => cases unordered
  | cons item rest =>
    have nonempty : parameters ≠ [] :=
      List.ne_nil_of_length_eq_add_one (Parameter.length_of_ofValues made)
    cases comparison with
    | eq =>
      show ((Expression.among field (bound.slots (item :: rest).length)).truth world row
        values).isTrue = (row field).any fun datum => world.equals datum (.list (item :: rest))
      rw [foldr_among _ found, isTrue_equalsOne world _ nonempty]
      simp only [equals]
    | ne =>
      show (((Expression.among field (bound.slots (item :: rest).length)).truth world row
        values).negate.either (.ofBool (row field).isNone)).isTrue =
          !(row field).any fun datum => world.equals datum (.list (item :: rest))
      rw [foldr_among _ found, isTrue_notAmong world _ nonempty]
      simp only [equals]
    | _ => cases unordered

theorem World.equals_single (world : World Datum) (datum : Datum) {operand : Value}
    (single : operand.kind ≠ .list) :
    world.equals datum operand = World.bound world.equal datum operand := by
  cases operand with
  | list items => exact absurd rfl single
  | _ => rfl

/-- A comparison with a single operand. -/
theorem isTrue_single {field : String} {comparison : Comparison} {operand : Value}
    {parameter : Parameter} {values : List Parameter} {bound : Parameters}
    (single : operand.kind ≠ .list) (made : Parameter.ofValue operand = .ok parameter)
    (fits : (bound.append [parameter]).values <+: values) :
    ((clauseOf field bound (.compare comparison operand)).expression.truth world row
        values).isTrue =
      world.meets dialect row field (.compare comparison operand) := by
  have found := parameterAt_single fits
  have bind : ∀ (relation : Datum → Parameter → Bool) (datum : Datum),
      World.bound relation datum operand = relation datum parameter :=
    fun relation datum => bound_of_ofValue relation datum made
  rw [clauseOf_single field bound comparison single]
  cases comparison with
  | ne =>
    show ((tested world.equal (row field) (parameterAt values (bound.size + 1))).negate.either
      (.ofBool (row field).isNone)).isTrue = _
    rw [found, isTrue_differs, World.meets]
    simp only [world.equals_single _ single, bind]
  | eq =>
    show (tested world.equal (row field) (parameterAt values (bound.size + 1))).isTrue = _
    rw [found, isTrue_tested, World.meets]
    simp only [world.equals_single _ single, bind]
  | _ =>
    show (tested _ (row field) (parameterAt values (bound.size + 1))).isTrue = _
    rw [found, isTrue_tested, World.meets]
    simp only [bind]
    rfl

theorem isTrue_present (field : String) (wanted : Bool) (values : List Parameter) :
    ((Clause.present field wanted).expression.truth world row values).isTrue =
      ((row field).isSome == wanted) := by
  cases wanted with
  | true =>
    show (Truth.ofBool (row field).isNone).negate.isTrue = _
    cases row field <;> rfl
  | false =>
    show (Truth.ofBool (row field).isNone).isTrue = _
    cases row field <;> rfl

/-- The clause of a leaf is true exactly on the rows on which its condition holds. -/
theorem isTrue_clauseOf {condition : Condition} {parameters values : List Parameter}
    {bound : Parameters} (field : String) (binding : Binding dialect condition parameters)
    (fits : (bound.append parameters).values <+: values) :
    ((clauseOf field bound condition).expression.truth world row values).isTrue =
      world.meets dialect row field condition := by
  cases binding with
  | present wanted => exact isTrue_present field wanted values
  | matching pattern =>
    show (tested world.matching (row field) (parameterAt values (bound.size + 1))).isTrue = _
    simp [parameterAt_single fits, World.meets]
  | list unordered made => exact isTrue_listClause unordered made fits
  | single comparison single made => exact isTrue_single single made fits

/-! ### Groups -/

theorem isTrue_joinedExpression_and (world : World Datum) (row : String → Option Datum)
    (values : List Parameter) (parts : List Clause) :
    ((Clause.joinedExpression .and parts).truth world row values).isTrue =
      parts.all fun part => (part.expression.truth world row values).isTrue := by
  induction parts with
  | nil => rfl
  | cons first rest inductionHypothesis =>
    cases rest with
    | nil => rw [Clause.joinedExpression, List.all_cons, List.all_nil, Bool.and_true]
    | cons second rest =>
      rw [Clause.joinedExpression, List.all_cons, ← inductionHypothesis]
      · exact Truth.isTrue_both _ _
      · exact List.cons_ne_nil second rest

theorem isTrue_joinedExpression_or (world : World Datum) (row : String → Option Datum)
    (values : List Parameter) {connective : Connective} {parts : List Clause}
    (other : connective ≠ .and) (nonempty : parts ≠ []) :
    ((Clause.joinedExpression connective parts).truth world row values).isTrue =
      parts.any fun part => (part.expression.truth world row values).isTrue := by
  have join : joinOf connective = .or := by
    cases connective with
    | and => exact absurd rfl other
    | _ => rfl
  induction parts with
  | nil => exact absurd rfl nonempty
  | cons first rest inductionHypothesis =>
    cases rest with
    | nil => rw [Clause.joinedExpression, List.any_cons, List.any_nil, Bool.or_false]
    | cons second rest =>
      rw [Clause.joinedExpression, join, List.any_cons,
        ← inductionHypothesis (List.cons_ne_nil second rest)]
      · exact Truth.isTrue_either _ _
      · exact List.cons_ne_nil second rest

/-- A joined clause is true where all of its parts are, or one, or none. -/
theorem isTrue_joined (connective : Connective) {parts : List Clause} {children : List Tree}
    {meaning : String → Condition → Bool} {values : List Parameter} (nonempty : parts ≠ [])
    (same : parts.map (fun part => (part.expression.truth world row values).isTrue) =
      children.map (Tree.holds meaning)) :
    ((Clause.joined connective parts).expression.truth world row values).isTrue =
      (Tree.group connective children).holds meaning := by
  have all : (parts.all fun part => (part.expression.truth world row values).isTrue) =
      children.all (Tree.holds meaning) := by
    have sides := congrArg (List.all · id) same
    rw [List.all_map, List.all_map] at sides
    exact sides
  have any : (parts.any fun part => (part.expression.truth world row values).isTrue) =
      children.any (Tree.holds meaning) := by
    have sides := congrArg (List.any · id) same
    rw [List.any_map, List.any_map] at sides
    exact sides
  cases connective with
  | and =>
    simp [Clause.expression, finish, isTrue_joinedExpression_and, all, Tree.holds]
  | or =>
    have inside := isTrue_joinedExpression_or world row values
      (show Connective.or ≠ .and by decide) nonempty
    simp [Clause.expression, finish, inside, any, Tree.holds]
  | nor =>
    have inside := isTrue_joinedExpression_or world row values
      (show Connective.nor ≠ .and by decide) nonempty
    rw [Clause.expression, finish, Tree.holds, Tree.someHold_eq_any, ← any, ← inside]
    exact Truth.isTrue_negate_coalesce _

/-! ### Filters -/

theorem Lowered.isPrefix {bound after : Parameters} {tree : Tree} {clause : Clause}
    (lowered : Lowered dialect bound tree clause after) : bound.values <+: after.values := by
  obtain ⟨more, rfl, _⟩ := lowered.slotsOf_eq
  exact List.prefix_append bound.values more

theorem LoweredAll.isPrefix {bound after : Parameters} {trees : List Tree} {parts : List Clause}
    (lowered : LoweredAll dialect bound trees parts after) : bound.values <+: after.values := by
  obtain ⟨more, rfl, _⟩ := lowered.slotsOf_eq
  exact List.prefix_append bound.values more

mutual

/-- The clause of a filter is true exactly on the rows on which the filter holds, whichever
parameters follow its own. -/
theorem Lowered.isTrue {bound after : Parameters} {tree : Tree} {clause : Clause}
    {values : List Parameter} (fits : after.values <+: values) :
    Lowered dialect bound tree clause after →
    (clause.expression.truth world row values).isTrue = tree.holds (world.meets dialect row)
  | .leaf binding => by
    rw [Tree.holds]
    exact isTrue_clauseOf _ binding fits
  | .group nonempty each =>
    isTrue_joined _ (each.parts_ne_nil nonempty) (each.isTrue fits)

theorem LoweredAll.isTrue {bound after : Parameters} {trees : List Tree} {parts : List Clause}
    {values : List Parameter} (fits : after.values <+: values) :
    LoweredAll dialect bound trees parts after →
    parts.map (fun part => (part.expression.truth world row values).isTrue) =
      trees.map (Tree.holds (world.meets dialect row))
  | .nil => rfl
  | .cons head tail => by
    rw [List.map_cons, List.map_cons, head.isTrue (tail.isPrefix.trans fits), tail.isTrue fits]

end

/-- The text of a statement is read as an expression that is true exactly on the rows on which the
filter holds, whatever the rows are and however their values relate to the parameters. -/
theorem Statement.means_filter {limit : Nat} {tree : Tree} {statement : Statement}
    (made : Statement.ofTree dialect limit tree = .ok statement) :
    ∃ expression,
      Expression.read dialect (statement.whereText dialect).toList = some expression ∧
      ∀ (Datum : Type) (world : World Datum) (row : String → Option Datum),
        expression.truth world row statement.parameters.values = .holds ↔
          tree.holds (world.meets dialect row) = true := by
  obtain ⟨_, lowered⟩ := ofTree_eq_ok_iff.mp made
  obtain ⟨more, _, inOrder⟩ := lowered.slotsOf_eq
  refine ⟨statement.clause.expression, ?_, fun Datum world row => ?_⟩
  · rw [Statement.whereText, String.toList_ofList]
    exact lowered.solid.read_text dialect inOrder
  · rw [← Truth.isTrue_iff, lowered.isTrue (List.prefix_refl _)]

/-- A group of which nothing may hold takes the rows without values, though its comparisons are
unknown on them. -/
theorem Statement.nothing_holds_on_missing :
    ∃ statement expression,
      Statement.ofTree .sqlite 2
        (.group .nor [.leaf "a" (.compare .eq (.str "x")),
          .leaf "b" (.compare .gt (.bool true))]) = .ok statement ∧
      statement.whereText .sqlite = "NOT COALESCE(\"a\" = ? OR \"b\" > ?, FALSE)" ∧
      Expression.read .sqlite (statement.whereText .sqlite).toList = some expression ∧
      ∀ (Datum : Type) (world : World Datum),
        expression.truth world (fun _ => none) statement.parameters.values = .holds := by
  have made : Statement.ofTree .sqlite 2
      (.group .nor [.leaf "a" (.compare .eq (.str "x")), .leaf "b" (.compare .gt (.bool true))]) =
        .ok ⟨.joined .nor [.relates "a" .equal 1, .relates "b" .greater 2],
          ⟨[.string "x", .bool true]⟩⟩ := rfl
  obtain ⟨expression, read, means⟩ := Statement.means_filter made
  exact ⟨_, expression, made, rfl, read, fun Datum world => (means Datum world _).mpr rfl⟩

end Sieve.Sql
