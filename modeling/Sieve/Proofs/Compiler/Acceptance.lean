/-
Trees need not come from a reader: they may be made by hand, and then a compiler may have to
refuse them. This file says which trees each compiler accepts, and what it says of the others.

The compilers write operands by ways of their own, one as a document and the other one as
parameters, and nested lists by a detour through their text. Still both take exactly the
operands whose floats are finite, and trees without empty groups. The databases refuse lists
where an order is asked for, in addition, and this is the only difference.

What a compiler says of a tree that it refuses is true of the tree: there is a place in it
with the defect that is named. A defect has a code of its own, so nobody takes it for the
fault of somebody who wrote a filter.
-/

import Mathlib.Data.List.Basic
import Sieve.Proofs.Compiler.Outcome
import Sieve.Proofs.Elastic.Meaning
import Sieve.Proofs.Filter.Recast

namespace Sieve

open Sieve.Filter (Comparison Condition Connective Defect Tree)

/-! ### Two halves of being renderable -/

namespace Filter.Tree

variable {tree : Tree}

theorem isOrdered_of_isRenderable (renderable : tree.IsRenderable) : tree.IsOrdered := by
  unfold IsRenderable at renderable
  induction renderable with
  | leaf kept => exact List.forall_mem_singleton.mpr kept.2
  | group _ _ inductionHypothesis => exact isOrdered_group.mpr inductionHypothesis

theorem isRenderable_of_isOrdered
    (finite : tree.WellFormed fun _ condition => condition.IsFinite) (ordered : tree.IsOrdered) :
    tree.IsRenderable := by
  induction finite with
  | leaf kept => exact .leaf ⟨kept, ordered _ (List.mem_singleton_self _)⟩
  | group nonempty _ inductionHypothesis =>
    rw [isOrdered_group] at ordered
    exact .group nonempty fun child member =>
      inductionHypothesis child member (ordered child member)

/-- A tree is renderable when its floats are finite, no group is empty, and its lists are asked
for no order. -/
theorem isRenderable_iff :
    tree.IsRenderable ↔
      (tree.WellFormed fun _ condition => condition.IsFinite) ∧ tree.IsOrdered := by
  constructor
  · intro renderable
    exact ⟨renderable.mono fun _ _ (kept : Condition.IsRenderable _) => kept.1,
      isOrdered_of_isRenderable renderable⟩
  · rintro ⟨finite, ordered⟩
    exact isRenderable_of_isOrdered finite ordered

end Filter.Tree

/-! ### What is wrong with a tree -/

/-- A value that is no parameter, and the defect that it has: a float that is not finite, or a list
with such a float in it, which has no text. -/
inductive Value.HasDefect : Value → Defect → Prop where
  | float {number : Double} (infinite : number.isFinite = false) :
    HasDefect (.float number) (.unbindable number)
  | list {items : List Value} (infinite : allFinite items = false) :
    HasDefect (.list items) (.inconvertible ⟨.list, .str⟩)

/-- A condition that has no query, or no parameters, and the defect that it has. -/
inductive Filter.Condition.HasDefect (field : String) : Condition → Defect → Prop where
  | operand {comparison : Comparison} {operand : Value} (infinite : operand.isFinite = false) :
    HasDefect field (.compare comparison operand) (.unwritable operand)
  | single {comparison : Comparison} {operand : Value} {defect : Defect}
    (single : operand.kind ≠ .list) (shown : operand.HasDefect defect) :
    HasDefect field (.compare comparison operand) defect
  | item {comparison : Comparison} {items : List Value} {item : Value} {defect : Defect}
    (member : item ∈ items) (shown : item.HasDefect defect) :
    HasDefect field (.compare comparison (.list items)) defect
  | order {comparison : Comparison} {items : List Value} (ordered : comparison.isRange = true) :
    HasDefect field (.compare comparison (.list items)) (.listInRange field)

/-- A tree with a defect somewhere in it: a group without children, or a condition with a
defect. -/
inductive Filter.Tree.HasDefect : Tree → Defect → Prop where
  | leaf {field : String} {condition : Condition} {defect : Defect}
    (shown : condition.HasDefect field defect) : HasDefect (.leaf field condition) defect
  | childless (connective : Connective) :
    HasDefect (.group connective []) (.childless connective)
  | child {connective : Connective} {children : List Tree} {child : Tree} {defect : Defect}
    (member : child ∈ children) (shown : HasDefect child defect) :
    HasDefect (.group connective children) defect

/-- A tree is too deep, or else it has a defect in it. -/
def Filter.Tree.IsDefective (limit : Nat) (tree : Tree) (defect : Defect) : Prop :=
  if tree.depth ≤ limit then tree.HasDefect defect else defect = .tooDeep tree.depth limit

/-! ### The depth -/

/-- A compiler that looks at the depth first goes on where the tree is within the limit. -/
theorem Filter.Tree.checkDepth_bind {α : Type} (limit : Nat) (tree : Tree)
    (next : Except Defect α) :
    ((tree.checkDepth limit).bind fun _ => next) =
      if tree.depth ≤ limit then next else .error (.tooDeep tree.depth limit) := by
  unfold checkDepth
  split <;> rfl

theorem Filter.Tree.isDefective_of_error {α : Type} {limit : Nat} {tree : Tree}
    {next : Except Defect α} {defect : Defect}
    (shown : next = .error defect → tree.HasDefect defect)
    (failed : ((tree.checkDepth limit).bind fun _ => next) = .error defect) :
    tree.IsDefective limit defect := by
  rw [checkDepth_bind] at failed
  unfold IsDefective
  split at failed
  · rw [if_pos ‹_›]
    exact shown failed
  · rw [if_neg ‹_›]
    cases failed
    rfl

/-! ### The search engine -/

namespace Elastic

theorem compile_eq (limit : Nat) (tree : Tree) :
    compile limit tree = (tree.checkDepth limit).bind fun _ => render tree := by
  rw [compile]
  cases tree.checkDepth limit with
  | error defect => rfl
  | ok checked => rfl

theorem exists_compile_iff {limit : Nat} {tree : Tree} :
    (∃ query, compile limit tree = .ok query) ↔
      tree.depth ≤ limit ∧ tree.WellFormed fun _ condition => condition.IsFinite := by
  rw [← exists_render_iff, compile_eq, Tree.checkDepth_bind]
  split <;> simp [*]

theorem exists_compileQuery_iff {limit : Nat} {tree : Tree} :
    (∃ query, compileQuery limit tree = .ok query) ↔
      tree.depth ≤ limit ∧ tree.WellFormed fun _ condition => condition.IsFinite := by
  rw [← exists_compile_iff]
  constructor
  · rintro ⟨_, whole⟩
    obtain ⟨query, compiled, _⟩ := map_eq_ok_iff.mp whole
    exact ⟨query, compiled⟩
  · rintro ⟨query, compiled⟩
    exact ⟨_, map_eq_ok_iff.mpr ⟨query, compiled, rfl⟩⟩

theorem hasDefect_of_leafQuery {field : String} {condition : Condition} {defect : Defect}
    (failed : leafQuery field condition = .error defect) : condition.HasDefect field defect := by
  cases condition with
  | compare comparison operand =>
    obtain ⟨query, written⟩ := exists_leafQuery_eq_map field comparison operand
    rw [written, map_eq_error_iff] at failed
    unfold operandJson at failed
    split at failed
    · cases failed
    · rename_i unwritten
      cases failed
      exact .operand (by rw [← Value.isSome_toJson?, unwritten, Option.isSome_none])
  | present wanted =>
    cases wanted with
    | true => cases failed
    | false => cases failed
  | matching pattern => cases failed

mutual

theorem hasDefect_of_render : (tree : Tree) → {defect : Defect} →
    render tree = .error defect → tree.HasDefect defect
  | .leaf field condition, _, failed => by
    rw [render] at failed
    exact .leaf (hasDefect_of_leafQuery failed)
  | .group connective [], _, failed => by
    cases failed
    exact .childless connective
  | .group connective (child :: rest), _, failed => by
    rw [render_group connective (List.cons_ne_nil child rest), map_eq_error_iff] at failed
    obtain ⟨bad, member, shown⟩ := hasDefect_of_renderChildren (child :: rest) failed
    exact .child member shown

theorem hasDefect_of_renderChildren : (trees : List Tree) → {defect : Defect} →
    renderChildren trees = .error defect → ∃ tree ∈ trees, tree.HasDefect defect
  | [], _, failed => by cases failed
  | tree :: rest, _, failed => by
    rw [renderChildren_cons] at failed
    rw [List.exists_mem_cons_iff]
    rcases error_of_bind_cons failed with head | tail
    · exact Or.inl (hasDefect_of_render tree (map_eq_error_iff.mp head))
    · exact Or.inr (hasDefect_of_renderChildren rest tail)

end

theorem isDefective_of_compile {limit : Nat} {tree : Tree} {defect : Defect}
    (failed : compile limit tree = .error defect) : tree.IsDefective limit defect := by
  rw [compile_eq] at failed
  exact Tree.isDefective_of_error (hasDefect_of_render tree) failed

end Elastic

/-! ### The databases -/

namespace Sql

theorem Parameter.hasDefect_of_ofValue {operand : Value} {defect : Defect}
    (failed : ofValue operand = .error defect) : operand.HasDefect defect := by
  cases operand with
  | float number =>
    rw [ofValue] at failed
    split at failed
    · cases failed
    · rename_i infinite
      cases failed
      exact .float (Bool.eq_false_iff.mpr infinite)
  | list items =>
    have infinite : Value.allFinite items = false := by
      rw [Bool.eq_false_iff]
      intro finite
      obtain ⟨parameter, made⟩ := exists_ofText_iff_list.mpr finite
      cases failed.symm.trans made
    have unwritten : Value.toJson? (.list items) = none := by
      rw [← Option.not_isSome_iff_eq_none, Value.isSome_toJson?, Value.isFinite, infinite]
      exact Bool.false_ne_true
    rw [ofValue, ofText, Value.coerce, Value.convert?, Value.fromList, unwritten] at failed
    · cases failed
      exact .list infinite
    all_goals exact fun _ impossible => by cases impossible
  | bool _ | int _ | str _ | formula _ | date _ | datetime _ => cases failed

theorem Parameter.hasDefect_of_ofValues {operands : List Value} {defect : Defect}
    (failed : ofValues operands = .error defect) :
    ∃ operand ∈ operands, operand.HasDefect defect := by
  rw [ofValues_eq_mapM] at failed
  obtain ⟨before, operand, after, rfl, _, refused⟩ := exists_first_of_mapM failed
  exact ⟨operand, List.mem_append_right before List.mem_cons_self, hasDefect_of_ofValue refused⟩

theorem hasDefect_of_parametersOf {dialect : Dialect} {field : String} {condition : Condition}
    {defect : Defect} (failed : parametersOf dialect field condition = .error defect) :
    condition.HasDefect field defect := by
  cases condition with
  | compare comparison operand =>
    by_cases list : operand.kind = .list
    · obtain ⟨items, rfl⟩ := Value.exists_list_of_kind list
      rw [parametersOf] at failed
      split at failed
      · rename_i ordered
        cases failed
        exact .order ordered
      · obtain ⟨item, member, shown⟩ := Parameter.hasDefect_of_ofValues failed
        exact .item member shown
    · rw [parametersOf_single dialect field comparison list, map_eq_error_iff] at failed
      exact .single list (Parameter.hasDefect_of_ofValue failed)
  | present wanted | matching pattern => cases failed

mutual

theorem hasDefect_of_lower {dialect : Dialect} : (tree : Tree) → {bound : Parameters} →
    {defect : Defect} → lower dialect bound tree = .error defect → tree.HasDefect defect
  | .leaf field condition, bound, _, failed => by
    rw [lower_leaf, map_eq_error_iff] at failed
    exact .leaf (hasDefect_of_parametersOf failed)
  | .group connective [], bound, _, failed => by
    cases failed
    exact .childless connective
  | .group connective (child :: rest), bound, _, failed => by
    rw [lower_group dialect bound connective (List.cons_ne_nil child rest),
      map_eq_error_iff] at failed
    obtain ⟨bad, member, shown⟩ := hasDefect_of_lowerAll (child :: rest) failed
    exact .child member shown

theorem hasDefect_of_lowerAll {dialect : Dialect} : (trees : List Tree) → {bound : Parameters} →
    {defect : Defect} → lowerAll dialect bound trees = .error defect →
    ∃ tree ∈ trees, tree.HasDefect defect
  | [], _, _, failed => by cases failed
  | tree :: rest, bound, _, failed => by
    rw [lowerAll_cons] at failed
    rw [List.exists_mem_cons_iff]
    rcases bind_eq_error_iff.mp failed with head | ⟨first, _, tail⟩
    · exact Or.inl (hasDefect_of_lower tree head)
    · exact Or.inr (hasDefect_of_lowerAll rest (map_eq_error_iff.mp tail))

end

theorem ofTree_eq (dialect : Dialect) (limit : Nat) (tree : Tree) :
    Statement.ofTree dialect limit tree =
      (tree.checkDepth limit).bind fun _ =>
        (lower dialect .empty tree).map fun (clause, parameters) => ⟨clause, parameters⟩ := by
  rw [Statement.ofTree]
  cases tree.checkDepth limit with
  | error defect => rfl
  | ok checked => rfl

theorem isDefective_of_ofTree {dialect : Dialect} {limit : Nat} {tree : Tree} {defect : Defect}
    (failed : Statement.ofTree dialect limit tree = .error defect) :
    tree.IsDefective limit defect := by
  rw [ofTree_eq] at failed
  exact Tree.isDefective_of_error
    (fun lowering => hasDefect_of_lower tree (map_eq_error_iff.mp lowering)) failed

theorem exists_ofTree_iff_isOrdered {dialect : Dialect} {limit : Nat} {tree : Tree} :
    (∃ statement, Statement.ofTree dialect limit tree = .ok statement) ↔
      (tree.depth ≤ limit ∧ tree.WellFormed fun _ condition => condition.IsFinite) ∧
        tree.IsOrdered := by
  rw [exists_ofTree_iff, Tree.isRenderable_iff, and_assoc]

end Sql

/-! ### Both compilers -/

namespace Compiler

/-- Which trees the compilers accept, made by a reader or by hand. The search engine has a query
for the trees within the limit that have finite floats and no empty group. Every database has a
statement for those among them that ask no list for an order; so the databases accept nothing but
what the search engine accepts, and what they refuse of it has such a list. A tree that is refused
has the defect that is named, and a defect has not the code of any fault that a filter can have. -/
theorem accepted_trees (limit : Nat) (tree : Tree) :
    ((∃ query, Elastic.compile limit tree = .ok query) ↔
        tree.depth ≤ limit ∧ tree.WellFormed fun _ condition => condition.IsFinite) ∧
      ((∃ query, Elastic.compileQuery limit tree = .ok query) ↔
        tree.depth ≤ limit ∧ tree.WellFormed fun _ condition => condition.IsFinite) ∧
      (∀ dialect,
        ((∃ statement, Sql.Statement.ofTree dialect limit tree = .ok statement) ↔
          (tree.depth ≤ limit ∧ tree.WellFormed fun _ condition => condition.IsFinite) ∧
            tree.IsOrdered) ∧
        ((∃ statement, Sql.Statement.ofTree dialect limit tree = .ok statement) →
          ∃ query, Elastic.compile limit tree = .ok query) ∧
        ((∃ query, Elastic.compile limit tree = .ok query) →
          (∃ defect, Sql.Statement.ofTree dialect limit tree = .error defect) →
          ¬ tree.IsOrdered)) ∧
      ∀ defect,
        (Elastic.compile limit tree = .error defect ∨
          Elastic.compileQuery limit tree = .error defect ∨
          ∃ dialect, Sql.Statement.ofTree dialect limit tree = .error defect) →
        tree.IsDefective limit defect ∧ ∀ fault : Filter.Fault, fault.code ≠ Defect.code := by
  refine ⟨Elastic.exists_compile_iff, Elastic.exists_compileQuery_iff, fun dialect => ?_,
    fun defect failed => ⟨?_, Filter.Fault.code_ne_defect⟩⟩
  · refine ⟨Sql.exists_ofTree_iff_isOrdered, fun made => ?_, ?_⟩
    · exact Elastic.exists_compile_iff.mpr (Sql.exists_ofTree_iff_isOrdered.mp made).1
    · rintro compiled ⟨defect, failed⟩ ordered
      obtain ⟨statement, made⟩ := Sql.exists_ofTree_iff_isOrdered.mpr
        ⟨Elastic.exists_compile_iff.mp compiled, ordered⟩
      cases failed.symm.trans made
  · rcases failed with compiled | whole | ⟨dialect, made⟩
    · exact Elastic.isDefective_of_compile compiled
    · exact Elastic.isDefective_of_compile (map_eq_error_iff.mp whole)
    · exact Sql.isDefective_of_ofTree made

/-- An empty list under an order is where the two kinds of backends differ. -/
theorem ordered_list_is_queried_only :
    let tree := Tree.group .nor [.leaf "a" (.compare .gt (.list []))]
    (∃ query, Elastic.compile 2 tree = .ok query) ∧
      (∀ dialect, Sql.Statement.ofTree dialect 2 tree = .error (.listInRange "a")) ∧
      ¬ tree.IsOrdered ∧ tree.IsDefective 2 (.listInRange "a") := by
  intro tree
  obtain ⟨queried, _, databases, refused⟩ := accepted_trees 2 tree
  have finite : tree.WellFormed fun _ condition => condition.IsFinite :=
    .group (List.cons_ne_nil _ _) (List.forall_mem_singleton.mpr (.leaf rfl))
  have compiled := queried.mpr ⟨Nat.le_refl 2, finite⟩
  have failed : ∀ dialect,
      Sql.Statement.ofTree dialect 2 tree = .error (.listInRange "a") := fun _ => rfl
  exact ⟨compiled, failed, (databases .clickhouse).2.2 compiled ⟨_, failed .clickhouse⟩,
    (refused _ (Or.inr (Or.inr ⟨.clickhouse, failed .clickhouse⟩))).1⟩

end Compiler

end Sieve
