/-
Which filters have a query for the search engine: those whose floats are finite and none
of whose groups is empty. An operand is written as a document, and the values with a
document form are the ones with finite floats; a list may stand anywhere, also where an
order is asked for.
-/

import Sieve.Elastic.Request
import Sieve.Proofs.Filter.WellFormed

namespace Sieve.Elastic

open Sieve.Filter (Comparison Condition Connective Defect Tree)

theorem exists_operandJson_iff {operand : Value} :
    (∃ document, operandJson operand = .ok document) ↔ operand.isFinite = true := by
  rw [← Value.isSome_toJson?]
  unfold operandJson
  cases operand.toJson? with
  | none => simp
  | some document => simp

/-- The query of a comparison is a function of the document form of its operand. -/
theorem exists_leafQuery_eq_map (field : String) (comparison : Comparison) (operand : Value) :
    ∃ query, leafQuery field (.compare comparison operand) = (operandJson operand).map query := by
  cases comparison <;> exact ⟨_, rfl⟩

theorem exists_leafQuery_iff {field : String} {condition : Condition} :
    (∃ query, leafQuery field condition = .ok query) ↔ condition.IsFinite := by
  cases condition with
  | compare comparison operand =>
    obtain ⟨query, written⟩ := exists_leafQuery_eq_map field comparison operand
    rw [written, Condition.IsFinite, ← exists_operandJson_iff]
    constructor
    · rintro ⟨_, rendered⟩
      obtain ⟨document, made, _⟩ := map_eq_ok_iff.mp rendered
      exact ⟨document, made⟩
    · rintro ⟨document, made⟩
      exact ⟨query document, map_eq_ok_iff.mpr ⟨document, made, rfl⟩⟩
  | present wanted =>
    cases wanted <;> exact ⟨fun _ => trivial, fun _ => ⟨_, rfl⟩⟩
  | matching pattern => exact ⟨fun _ => trivial, fun _ => ⟨_, rfl⟩⟩

theorem render_group (connective : Connective) {children : List Tree} (nonempty : children ≠ []) :
    render (.group connective children) =
      (renderChildren children).map fun queries =>
        single (clauseKey connective) (.list queries) := by
  rw [render, if_neg (by simpa using nonempty)]

@[simp]
theorem renderChildren_cons (tree : Tree) (rest : List Tree) :
    renderChildren (tree :: rest) =
      ((render tree).map (wrap tree)).bind fun query =>
        (renderChildren rest).map (query :: ·) := by
  rw [renderChildren]
  cases render tree with
  | error defect => rfl
  | ok query => rfl

theorem renderChildren_eq_mapM (trees : List Tree) :
    renderChildren trees = trees.mapM fun tree => (render tree).map (wrap tree) := by
  induction trees with
  | nil => rfl
  | cons tree rest inductionHypothesis =>
    rw [renderChildren_cons, mapM_cons_eq_bind, inductionHypothesis]

theorem exists_renderChildren_iff {trees : List Tree} :
    (∃ queries, renderChildren trees = .ok queries) ↔
      ∀ tree ∈ trees, ∃ query, render tree = .ok query := by
  rw [renderChildren_eq_mapM, exists_mapM_eq_ok_iff]
  refine forall₂_congr fun tree _ => ?_
  constructor
  · rintro ⟨_, wrapped⟩
    obtain ⟨query, made, _⟩ := map_eq_ok_iff.mp wrapped
    exact ⟨query, made⟩
  · rintro ⟨query, made⟩
    exact ⟨_, map_eq_ok_iff.mpr ⟨query, made, rfl⟩⟩

theorem exists_render {tree : Tree}
    (finite : tree.WellFormed fun _ condition => condition.IsFinite) :
    ∃ query, render tree = .ok query := by
  induction finite with
  | leaf kept =>
    rw [render]
    exact exists_leafQuery_iff.mpr kept
  | group nonempty _ inductionHypothesis =>
    obtain ⟨queries, rendered⟩ := exists_renderChildren_iff.mpr inductionHypothesis
    rw [render_group _ nonempty]
    exact ⟨_, map_eq_ok_iff.mpr ⟨queries, rendered, rfl⟩⟩

mutual

theorem isFinite_of_render : (tree : Tree) → {query : Json} → render tree = .ok query →
    tree.WellFormed fun _ condition => condition.IsFinite
  | .leaf field condition, query, rendered => by
    rw [render] at rendered
    exact .leaf (exists_leafQuery_iff.mp ⟨query, rendered⟩)
  | .group connective [], query, rendered => by cases rendered
  | .group connective (child :: rest), query, rendered => by
    have nonempty := List.cons_ne_nil child rest
    rw [render_group connective nonempty] at rendered
    obtain ⟨queries, each, _⟩ := map_eq_ok_iff.mp rendered
    exact .group nonempty (isFinite_of_renderChildren (child :: rest) each)

theorem isFinite_of_renderChildren : (trees : List Tree) → {queries : List Json} →
    renderChildren trees = .ok queries →
    ∀ tree ∈ trees, tree.WellFormed fun _ condition => condition.IsFinite
  | [], _, _ => fun _ member => absurd member List.not_mem_nil
  | tree :: rest, queries, rendered => by
    rw [renderChildren_cons] at rendered
    obtain ⟨_, _, head, tail, _⟩ := bind_cons_eq_ok_iff.mp rendered
    obtain ⟨query, made, _⟩ := map_eq_ok_iff.mp head
    exact List.forall_mem_cons.mpr
      ⟨isFinite_of_render tree made, isFinite_of_renderChildren rest tail⟩

end

/-- The filters that have a query are those of finite floats, but for their depth. -/
theorem exists_render_iff {tree : Tree} :
    (∃ query, render tree = .ok query) ↔
      tree.WellFormed fun _ condition => condition.IsFinite :=
  ⟨fun ⟨_, rendered⟩ => isFinite_of_render tree rendered, exists_render⟩

/-- A renderable filter within the limit has a query of its own and as a whole. -/
theorem exists_compileQuery {limit : Nat} {tree : Tree} (shallow : tree.depth ≤ limit)
    (renderable : tree.IsRenderable) :
    ∃ query, compile limit tree = .ok query ∧
      compileQuery limit tree = .ok (wrap tree query) := by
  obtain ⟨query, rendered⟩ :=
    exists_render (renderable.mono fun _ _ (kept : Condition.IsRenderable _) => kept.1)
  have compiled : compile limit tree = .ok query := by
    unfold compile Tree.checkDepth
    rw [if_pos shallow]
    exact rendered
  exact ⟨query, compiled, map_eq_ok_iff.mpr ⟨query, compiled, rfl⟩⟩

end Sieve.Elastic
