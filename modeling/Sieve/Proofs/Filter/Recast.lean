/-
What a schema does. A reader with a schema brings operands to their kinds while it reads,
before the operator of a condition has seen the operand. This file proves that it may as well
be done afterwards: a filter that was read without a schema is recast, its comparisons get
the operands that the schema asks for, and nothing else about it changes.

The two orders agree because of lists. Comparisons that ask for the order refuse a list, and
they do so before the operand is recast in one order, and after it in the other one. A list is
never brought to anything but a list, so what is refused before is refused after. A text may
become a list, and that is refused after only; hence recast filters have to be looked through
for such lists once more.
-/

import Sieve.Proofs.Filter.Alongside
import Sieve.Proofs.Filter.Grammar
import Sieve.Proofs.Filter.Outline
import Sieve.Proofs.Filter.WellFormed
import Sieve.Proofs.Value.Kind

namespace Sieve.Filter

/-! ### Recasting -/

/-- An operand brought to the kind in a schema, where the schema names the field. -/
def Schema.recast (schema : Schema) (field : String) (operand : Value) :
    Except Value.ConversionFault Value :=
  match schema.get? field with
  | none => .ok operand
  | some target => Value.coerceEach target operand

/-- A condition with its operand recast, if it is a comparison. -/
def Condition.recast (schema : Schema) (field : String) :
    Condition → Except Value.ConversionFault Condition
  | .compare comparison operand => (schema.recast field operand).map (.compare comparison)
  | .present wanted => .ok (.present wanted)
  | .matching pattern => .ok (.matching pattern)

namespace Tree

mutual

/-- A filter with the operands of all of its comparisons recast. -/
def recast (schema : Schema) : Tree → Except Value.ConversionFault Tree
  | .leaf field condition => (condition.recast schema field).map (.leaf field)
  | .group connective children => (recastEach schema children).map (.group connective)

def recastEach (schema : Schema) : List Tree → Except Value.ConversionFault (List Tree)
  | [] => .ok []
  | tree :: rest => (recast schema tree).bind fun first => (recastEach schema rest).map (first :: ·)

end

end Tree

/-! ### What is not recast -/

/-- A condition with the operand taken out that a schema is about. -/
def Condition.outside (schema : Schema) (field : String) : Condition → Condition
  | .compare comparison operand =>
    .compare comparison (if (schema.get? field).isSome then .bool false else operand)
  | .present wanted => .present wanted
  | .matching pattern => .matching pattern

namespace Tree

mutual

/-- A filter with the operands taken out that a schema is about, and with everything else. -/
def outside (schema : Schema) : Tree → Tree
  | .leaf field condition => .leaf field (condition.outside schema field)
  | .group connective children => .group connective (outsideEach schema children)

def outsideEach (schema : Schema) : List Tree → List Tree
  | [] => []
  | tree :: rest => outside schema tree :: outsideEach schema rest

end

end Tree

theorem Condition.outside_recast {schema : Schema} {field : String} {plain condition : Condition}
    (cast : plain.recast schema field = .ok condition) :
    condition.outside schema field = plain.outside schema field := by
  cases plain with
  | compare comparison operand =>
    obtain ⟨result, coerced, rfl⟩ := map_eq_ok_iff.mp cast
    unfold Schema.recast at coerced
    unfold Condition.outside
    cases named : schema.get? field with
    | none =>
      rw [named] at coerced
      cases coerced
      rfl
    | some target => rfl
  | present wanted | matching pattern =>
    cases cast
    rfl

namespace Tree

mutual

/-- Recasting keeps everything but the operands that the schema is about. -/
theorem outside_recast {schema : Schema} : (plain : Tree) → {tree : Tree} →
    plain.recast schema = .ok tree → tree.outside schema = plain.outside schema
  | .leaf field condition, _, cast => by
    obtain ⟨result, recast, rfl⟩ := map_eq_ok_iff.mp cast
    rw [outside, outside, Condition.outside_recast recast]
  | .group connective children, _, cast => by
    obtain ⟨results, recast, rfl⟩ := map_eq_ok_iff.mp cast
    rw [outside, outside, outsideEach_recastEach children recast]

theorem outsideEach_recastEach {schema : Schema} : (plains : List Tree) → {trees : List Tree} →
    recastEach schema plains = .ok trees → outsideEach schema trees = outsideEach schema plains
  | [], _, cast => by
    cases cast
    rfl
  | plain :: rest, _, cast => by
    obtain ⟨tree, others, head, tail, rfl⟩ := bind_cons_eq_ok_iff.mp cast
    rw [outsideEach, outsideEach, outside_recast plain head, outsideEach_recastEach rest tail]

end

end Tree

/-! ### Recast operands -/

/-- The operand of a comparison has the kind that a schema names for its field, or it is a list, of
items of this kind where it is not the kind of lists. -/
def Condition.IsCast (schema : Schema) (field : String) : Condition → Prop
  | .compare _ operand => ∀ target, schema.get? field = some target → operand.IsBroughtTo target
  | _ => True

theorem Condition.isCast_recast {schema : Schema} {field : String} {plain condition : Condition}
    (cast : plain.recast schema field = .ok condition) : condition.IsCast schema field := by
  cases plain with
  | compare comparison operand =>
    obtain ⟨result, coerced, rfl⟩ := map_eq_ok_iff.mp cast
    intro target named
    unfold Schema.recast at coerced
    rw [named] at coerced
    exact Value.isBroughtTo_of_coerceEach coerced
  | present wanted | matching pattern =>
    cases cast
    trivial

namespace Tree

mutual

theorem isCast_recast {schema : Schema} : (plain : Tree) → {tree : Tree} →
    plain.recast schema = .ok tree → ∀ leaf ∈ tree.leaves, leaf.2.IsCast schema leaf.1
  | .leaf field condition, _, cast => by
    obtain ⟨result, recast, rfl⟩ := map_eq_ok_iff.mp cast
    exact List.forall_mem_singleton.mpr (Condition.isCast_recast recast)
  | .group connective children, _, cast => by
    obtain ⟨results, recast, rfl⟩ := map_eq_ok_iff.mp cast
    exact isCast_recastEach children recast

theorem isCast_recastEach {schema : Schema} : (plains : List Tree) → {trees : List Tree} →
    recastEach schema plains = .ok trees →
      ∀ leaf ∈ leavesOfEach trees, leaf.2.IsCast schema leaf.1
  | [], _, cast => by
    cases cast
    exact fun _ member => absurd member List.not_mem_nil
  | plain :: rest, _, cast => by
    obtain ⟨tree, others, head, tail, rfl⟩ := bind_cons_eq_ok_iff.mp cast
    exact List.forall_mem_append.mpr ⟨isCast_recast plain head, isCast_recastEach rest tail⟩

end

/-- No leaf asks for the place of a list in an order. -/
def IsOrdered (tree : Tree) : Prop :=
  ∀ leaf ∈ tree.leaves, leaf.2.IsOrdered

@[simp]
theorem isOrdered_group {connective : Connective} {children : List Tree} :
    (group connective children).IsOrdered ↔ ∀ child ∈ children, child.IsOrdered := by
  unfold IsOrdered
  rw [leaves]
  induction children with
  | nil =>
    exact iff_of_true (fun _ member => absurd member List.not_mem_nil)
      (fun _ member => absurd member List.not_mem_nil)
  | cons child rest inductionHypothesis =>
    rw [leavesOfEach, List.forall_mem_append, inductionHypothesis, List.forall_mem_cons]

@[simp]
theorem isOrdered_conjunction {trees : List Tree} :
    (conjunction trees).IsOrdered ↔ ∀ tree ∈ trees, tree.IsOrdered := by
  match trees with
  | [] => exact isOrdered_group
  | [tree] => exact List.forall_mem_singleton.symm
  | _ :: _ :: _ => exact isOrdered_group

/-- Recasting several filters that are joined is recasting each of them. -/
@[simp]
theorem recast_conjunction (schema : Schema) (trees : List Tree) :
    (conjunction trees).recast schema = (recastEach schema trees).map conjunction := by
  match trees with
  | [] => rfl
  | [tree] =>
    show tree.recast schema = _
    rw [recastEach, recastEach]
    cases tree.recast schema with
    | error fault => rfl
    | ok result => rfl
  | first :: second :: rest =>
    show (recastEach schema (first :: second :: rest)).map (group .and) = _
    cases recast : recastEach schema (first :: second :: rest) with
    | error fault => rfl
    | ok results =>
      obtain ⟨_, _, _, tail, rfl⟩ := bind_cons_eq_ok_iff.mp recast
      obtain ⟨_, _, _, _, rfl⟩ := bind_cons_eq_ok_iff.mp tail
      rfl

end Tree

/-! ### Two readings of one document -/

/-- How the outcome with a schema (the second one) compares with the outcome without (the first
one): it is what the other value is recast to, if this is ordered. -/
def Recasts {α : Type} (recast : α → Except Value.ConversionFault α) (ordered : α → Prop)
    (plain cast : Except Fault α) : Prop :=
  ∀ result, cast = .ok result ↔
    ∃ value, plain = .ok value ∧ recast value = .ok result ∧ ordered result

namespace Recasts

variable {α β : Type} {recast : α → Except Value.ConversionFault α} {ordered : α → Prop}
  {plain cast : Except Fault α}

theorem faults (first second : Fault) : Recasts recast ordered (.error first) (.error second) := by
  intro result
  constructor
  · intro outcome
    cases outcome
  · rintro ⟨value, outcome, _⟩
    cases outcome

/-- What recasting leaves as it is may be read with or without a schema. -/
theorem same (outcome : Except Fault α)
    (kept : ∀ value, outcome = .ok value → recast value = .ok value ∧ ordered value) :
    Recasts recast ordered outcome outcome := by
  intro result
  constructor
  · intro read
    exact ⟨result, read, kept result read⟩
  · rintro ⟨value, read, recast, _⟩
    cases (kept value read).1.symm.trans recast
    exact read

/-- A step that no schema has a part in, and what comes after it. -/
theorem bind {plainNext castNext : β → Except Fault α} (first : Except Fault β)
    (next : ∀ value, first = .ok value → Recasts recast ordered (plainNext value) (castNext value)) :
    Recasts recast ordered (first.bind plainNext) (first.bind castNext) := by
  cases first with
  | error fault => exact faults fault fault
  | ok value => exact next value rfl

theorem map {recastNext : β → Except Value.ConversionFault β} {orderedNext : β → Prop}
    (function : α → β) (recasts : Recasts recast ordered plain cast)
    (commutes : ∀ value, recastNext (function value) = (recast value).map function)
    (agree : ∀ value, orderedNext (function value) ↔ ordered value) :
    Recasts recastNext orderedNext (plain.map function) (cast.map function) := by
  intro result
  rw [map_eq_ok_iff]
  constructor
  · rintro ⟨value, read, rfl⟩
    obtain ⟨before, plainRead, recast, inOrder⟩ := (recasts value).mp read
    refine ⟨function before, map_eq_ok_iff.mpr ⟨before, plainRead, rfl⟩, ?_,
      (agree value).mpr inOrder⟩
    rw [commutes, recast]
    rfl
  · rintro ⟨_, read, after, inOrder⟩
    obtain ⟨before, plainRead, rfl⟩ := map_eq_ok_iff.mp read
    rw [commutes] at after
    obtain ⟨value, recast, rfl⟩ := map_eq_ok_iff.mp after
    exact ⟨value, (recasts value).mpr ⟨before, plainRead, recast, (agree value).mp inOrder⟩, rfl⟩

variable {schema : Schema}

theorem nil :
    Recasts (Tree.recastEach schema) (∀ tree ∈ ·, tree.IsOrdered) (.ok []) (.ok []) := by
  refine .same _ fun trees read => ?_
  cases read
  exact ⟨rfl, fun _ member => absurd member List.not_mem_nil⟩

/-- A walk along a list: its trees are recast one after another, and each has to be ordered. -/
theorem cons {plain cast : Except Fault Tree}
    {plainRest castRest : Except Fault (List Tree)}
    (head : Recasts (Tree.recast schema) Tree.IsOrdered plain cast)
    (tail : Recasts (Tree.recastEach schema) (∀ tree ∈ ·, tree.IsOrdered) plainRest castRest) :
    Recasts (Tree.recastEach schema) (∀ tree ∈ ·, tree.IsOrdered)
      (plain.bind fun tree => plainRest.map (tree :: ·))
      (cast.bind fun tree => castRest.map (tree :: ·)) := by
  intro results
  rw [bind_cons_eq_ok_iff]
  constructor
  · rintro ⟨tree, others, read, readRest, rfl⟩
    obtain ⟨before, plainRead, recast, inOrder⟩ := (head tree).mp read
    obtain ⟨beforeRest, plainReadRest, recastRest, inOrderRest⟩ := (tail others).mp readRest
    exact ⟨before :: beforeRest,
      bind_cons_eq_ok_iff.mpr ⟨before, beforeRest, plainRead, plainReadRest, rfl⟩,
      bind_cons_eq_ok_iff.mpr ⟨tree, others, recast, recastRest, rfl⟩,
      List.forall_mem_cons.mpr ⟨inOrder, inOrderRest⟩⟩
  · rintro ⟨_, read, after, inOrder⟩
    obtain ⟨before, beforeRest, plainRead, plainReadRest, rfl⟩ := bind_cons_eq_ok_iff.mp read
    obtain ⟨tree, others, recast, recastRest, rfl⟩ := bind_cons_eq_ok_iff.mp after
    rw [List.forall_mem_cons] at inOrder
    exact ⟨tree, others, (head tree).mpr ⟨before, plainRead, recast, inOrder.1⟩,
      (tail others).mpr ⟨beforeRest, plainReadRest, recastRest, inOrder.2⟩, rfl⟩

theorem conjunction {plain cast : Except Fault (List Tree)}
    (recasts : Recasts (Tree.recastEach schema) (∀ tree ∈ ·, tree.IsOrdered) plain cast) :
    Recasts (Tree.recast schema) Tree.IsOrdered (plain.map Tree.conjunction)
      (cast.map Tree.conjunction) :=
  recasts.map Tree.conjunction (Tree.recast_conjunction schema)
    fun _ => Tree.isOrdered_conjunction

theorem group {plain cast : Except Fault (List Tree)}
    (connective : Connective)
    (recasts : Recasts (Tree.recastEach schema) (∀ tree ∈ ·, tree.IsOrdered) plain cast) :
    Recasts (Tree.recast schema) Tree.IsOrdered (plain.map (Tree.group connective))
      (cast.map (Tree.group connective)) :=
  recasts.map (Tree.group connective) (fun _ => Tree.recast.eq_2 _ _ _)
    fun _ => Tree.isOrdered_group

theorem leaf {field : String} {plain cast : Except Fault Condition}
    (recasts : Recasts (Condition.recast schema field) Condition.IsOrdered plain cast) :
    Recasts (Tree.recast schema) Tree.IsOrdered (plain.map (Tree.leaf field))
      (cast.map (Tree.leaf field)) :=
  recasts.map (Tree.leaf field) (fun _ => Tree.recast.eq_1 _ _ _)
    fun _ => List.forall_mem_singleton

end Recasts

/-! ### Comparisons -/

/-- What is ordered when it is recast was ordered before, for a list stays a list. -/
theorem isOrdered_of_recast {schema : Schema} {field : String} {comparison : Comparison}
    {operand result : Value} (coerced : schema.recast field operand = .ok result)
    (ordered : (Condition.compare comparison result).IsOrdered) :
    (Condition.compare comparison operand).IsOrdered := by
  cases operand with
  | list items =>
    unfold Schema.recast at coerced
    cases named : schema.get? field with
    | none =>
      rw [named] at coerced
      cases coerced
      exact ordered
    | some target =>
      rw [named] at coerced
      have list := Value.kind_of_coerceEach_list coerced
      cases result with
      | list results => exact ordered
      | _ => cases list
  | bool _ | int _ | float _ | str _ | date _ | datetime _ | formula _ => trivial

namespace Reader

variable {limit : Nat} {schema : Schema}

theorem coerceOperand_eq (reader : Reader) (path : Path) (field : String) (operand : Value) :
    reader.coerceOperand path field operand =
      (reader.schema.recast field operand).mapError fun fault => ⟨.conversion fault, path⟩ := by
  unfold coerceOperand Schema.recast
  cases reader.schema.get? field with
  | none => rfl
  | some target => rfl

/-- A comparison may be made first and recast then. -/
theorem recasts_compareWith (path : Path) (field : String) (comparison : Comparison)
    (operand : Value) :
    Recasts (Condition.recast schema field) Condition.IsOrdered
      ((compareWith comparison operand).mapError (OperandFault.atPath path))
      ((((standard.withLimit limit).withSchema schema).coerceOperand path field operand).bind
        fun value => (compareWith comparison value).mapError (OperandFault.atPath path)) := by
  intro result
  rw [coerceOperand_eq, bind_eq_ok_iff]
  constructor
  · rintro ⟨value, coerced, made⟩
    rw [mapError_eq_ok_iff] at coerced made
    obtain ⟨rfl, ordered⟩ := compareWith_eq_ok_iff.mp made
    refine ⟨.compare comparison operand, mapError_eq_ok_iff.mpr ?_, ?_, ordered⟩
    · exact compareWith_eq_ok_iff.mpr ⟨rfl, isOrdered_of_recast coerced ordered⟩
    · exact map_eq_ok_iff.mpr ⟨value, coerced, rfl⟩
  · rintro ⟨condition, made, recast, ordered⟩
    rw [mapError_eq_ok_iff] at made
    obtain ⟨rfl, _⟩ := compareWith_eq_ok_iff.mp made
    obtain ⟨value, coerced, rfl⟩ := map_eq_ok_iff.mp recast
    exact ⟨value, mapError_eq_ok_iff.mpr coerced,
      mapError_eq_ok_iff.mpr (compareWith_eq_ok_iff.mpr ⟨rfl, ordered⟩)⟩

theorem recasts_comparison (path : Path) (field : String) (comparison : Comparison)
    (document : Json) :
    Recasts (Condition.recast schema field) Condition.IsOrdered
      (((standard.withLimit limit).comparedOperand path field document).bind fun value =>
        (compareWith comparison value).mapError (OperandFault.atPath path))
      ((((standard.withLimit limit).withSchema schema).comparedOperand path field document).bind
        fun value => (compareWith comparison value).mapError (OperandFault.atPath path)) := by
  rw [comparedOperand_standard, comparedOperand_eq]
  cases operand path document with
  | error fault => exact .faults fault fault
  | ok value => exact recasts_compareWith path field comparison value

/-! ### Leaves -/

/-- The comparisons are the standard operators that know a schema. -/
theorem category_of_mem : ∀ operator ∈ Registry.standardOperators,
    operator.category =
      match operator.builder with
      | .field (.compare _) => .comparison
      | .field .presence => .element
      | .field .matching => .evaluation
      | .logical _ => .logical := by
  decide

/-- A condition that is no comparison is not recast. -/
theorem recast_of_condition {operation : Operation} {field : String} {value : Value}
    {condition : Condition} (other : ∀ comparison, operation ≠ .compare comparison)
    (made : operation.condition value = .ok condition) :
    condition.recast schema field = .ok condition ∧ condition.IsOrdered := by
  cases operation with
  | compare comparison => exact absurd rfl (other comparison)
  | presence =>
    rw [Operation.condition] at made
    split at made
    · cases made
      exact ⟨rfl, trivial⟩
    · cases made
    · cases made
  | matching =>
    rw [Operation.condition] at made
    split at made
    · cases made
      exact ⟨rfl, trivial⟩
    · cases made
    · cases made

theorem recasts_conditionOf (path : Path) (field key : String) {operator : Operator}
    (member : operator ∈ Registry.standardOperators) (document : Json) :
    Recasts (Condition.recast schema field) Condition.IsOrdered
      ((standard.withLimit limit).conditionOf path field key operator document)
      (((standard.withLimit limit).withSchema schema).conditionOf path field key operator
        document) := by
  have category := category_of_mem operator member
  unfold conditionOf operatorOperand
  cases built : operator.builder with
  | logical connective => exact .faults _ _
  | field operation =>
    rw [built] at category
    cases operation with
    | compare comparison =>
      dsimp only
      rw [if_pos category, if_pos category]
      exact recasts_comparison path field comparison document
    | presence | matching =>
      have noComparison : operator.category ≠ .comparison := by
        rw [category]
        decide
      dsimp only
      rw [if_neg noComparison, if_neg noComparison]
      refine .bind _ fun value _ => .same _ fun condition made => ?_
      exact recast_of_condition (by simp) (mapError_eq_ok_iff.mp made)

theorem recasts_readCondition (path : Path) (level : Nat) (field key : String) (document : Json) :
    Recasts (Tree.recast schema) Tree.IsOrdered
      ((standard.withLimit limit).readCondition path level field key document)
      (((standard.withLimit limit).withSchema schema).readCondition path level field key
        document) := by
  rw [readCondition_eq, readCondition_eq]
  refine .bind ((standard.withLimit limit).checkLevel path level) fun _ _ => ?_
  refine .bind ((standard.withLimit limit).resolve path key) fun operator resolved => ?_
  refine Recasts.leaf (recasts_conditionOf path field key ?_ document)
  unfold resolve at resolved
  cases found : (standard.withLimit limit).registry.resolve? key with
  | none =>
    rw [found] at resolved
    cases resolved
  | some other =>
    rw [found] at resolved
    cases resolved
    exact (mem_of_resolve?_eq_some found).1

theorem recasts_readEquality (path : Path) (level : Nat) (field : String) (document : Json) :
    Recasts (Tree.recast schema) Tree.IsOrdered
      ((standard.withLimit limit).readEquality path level field document)
      (((standard.withLimit limit).withSchema schema).readEquality path level field document) := by
  rw [readEquality_eq_compareWith, readEquality_eq_compareWith]
  exact .bind ((standard.withLimit limit).checkLevel path level) fun _ _ =>
    (recasts_comparison path field .eq document).leaf

/-! ### Filters -/

/-- Readings without a schema and with one, side by side. No level depends on the schema. -/
theorem alongside_withSchema (limit : Nat) (schema : Schema) :
    Alongside (standard.withLimit limit) ((standard.withLimit limit).withSchema schema)
      (fun _ => Recasts (Tree.recast schema) Tree.IsOrdered)
      (fun _ => Recasts (Tree.recastEach schema) (∀ tree ∈ ·, tree.IsOrdered)) where
  resolveLogical _ _ := rfl
  condition := recasts_readCondition
  equality := recasts_readEquality
  malformed _ fault := .faults fault fault
  refused path level fault :=
    .bind ((standard.withLimit limit).checkLevel path level) fun _ _ => .faults fault fault
  nil _ := .nil
  cons _ head tail := head.cons tail
  mapping path level members entries _ :=
    .bind ((standard.withLimit limit).entryLevel path level members) fun inner _ =>
      (entries inner).conjunction
  group path level connective children _ :=
    .bind ((standard.withLimit limit).checkLevel path level) fun _ _ => children.group connective

/-- A schema acts as a pass over filters that were read without one: with it, a document is read as
the recast filter, where there is one and it asks for the place of no list in an order. And recasting
changes nothing but the operands that the schema is about, and brings these to their kinds. -/
theorem read_withSchema (limit : Nat) (schema : Schema) (document : Json) :
    (∀ tree, ((standard.withLimit limit).withSchema schema).read document = .ok tree ↔
      ∃ plain, (standard.withLimit limit).read document = .ok plain ∧
        plain.recast schema = .ok tree ∧ tree.IsOrdered) ∧
    ∀ plain tree : Tree, plain.recast schema = .ok tree →
      tree.outside schema = plain.outside schema ∧
        ∀ leaf ∈ tree.leaves, leaf.2.IsCast schema leaf.1 :=
  ⟨(alongside_withSchema limit schema).read document, fun plain _ cast =>
    ⟨Tree.outside_recast plain cast, Tree.isCast_recast plain cast⟩⟩

theorem read_flags_withSchema :
    let schema := (Schema.empty.insert "a" .str).insert "b" .int
    let document := Json.mapping [("a", .list [.bool true, .bool false]),
      ("b", .mapping [("@gt", .bool true), ("@exists", .bool true)])]
    let plain := Tree.group .and [.leaf "a" (.compare .eq (.list [.bool true, .bool false])),
      .group .and [.leaf "b" (.compare .gt (.bool true)), .leaf "b" (.present true)]]
    let tree := Tree.group .and [.leaf "a" (.compare .eq (.list [.str "true", .str "false"])),
      .group .and [.leaf "b" (.compare .gt (.int 1)), .leaf "b" (.present true)]]
    ((standard.withLimit 3).withSchema schema).read document = .ok tree ∧
      tree.outside schema = plain.outside schema ∧
      ∀ leaf ∈ tree.leaves, leaf.2.IsCast schema leaf.1 := by
  intro schema document plain tree
  obtain ⟨reads, keeps⟩ := read_withSchema 3 schema document
  have ordered : tree.IsOrdered := by
    simp [tree, Tree.IsOrdered, Tree.leaves, Tree.leavesOfEach, Condition.IsOrdered,
      Comparison.isRange]
  exact ⟨(reads tree).mpr ⟨plain, rfl, rfl, ordered⟩, keeps plain tree rfl⟩

end Reader

end Sieve.Filter
