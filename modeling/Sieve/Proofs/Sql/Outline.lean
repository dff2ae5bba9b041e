/-
This file proves that nothing of a filter is spliced into the text of its query. The text
is lexed as a database lexes it, with names between quotes. Every name ends; the names are
the fields of the leaves, to the letter, each as often as its condition uses the column;
and what stands outside of them depends on the outline of the filter only.

The reason is that the clause of the outline is the outline of the clause. Lowering never
looks at the name of a field or into an operand when it decides what to ask for, so taking
both out of a filter takes out the names of its clause and changes nothing else.
-/

import Mathlib.Data.List.Basic
import Sieve.Proofs.Filter.Outline
import Sieve.Proofs.Sql.Lexeme

namespace Sieve.Sql

open Sieve.Filter (Comparison Condition Connective Tree)

/-! ### Outlines of clauses -/

/-- A piece with the name of its column taken out. -/
def Piece.outline : Piece → Piece
  | .verbatim text => .verbatim text
  | .column _ => .column ""
  | .slot number => .slot number

mutual

/-- A clause with the names of its columns taken out. -/
def Clause.outline : Clause → Clause
  | .constant holds => .constant holds
  | .relates _ relation slot => .relates "" relation slot
  | .differs _ slot => .differs "" slot
  | .among _ slots => .among "" slots
  | .notAmong _ slots => .notAmong "" slots
  | .present _ wanted => .present "" wanted
  | .matching _ slot => .matching "" slot
  | .joined connective parts => .joined connective (Clause.outlineEach parts)

def Clause.outlineEach : List Clause → List Clause
  | [] => []
  | clause :: rest => clause.outline :: Clause.outlineEach rest

end

theorem map_outline_separated {α : Type} (text : String) (pieces : α → List Piece)
    (items : List α) :
    (items.flatMap fun item => .verbatim text :: pieces item).map Piece.outline =
      items.flatMap fun item => .verbatim text :: (pieces item).map Piece.outline := by
  rw [List.map_flatMap]
  rfl

theorem map_outline_slotPieces (slots : List Nat) :
    (slotPieces slots).map Piece.outline = slotPieces slots := by
  cases slots with
  | nil => rfl
  | cons first rest =>
    rw [slotPieces_cons, List.map_cons, map_outline_separated]
    rfl

@[simp]
theorem map_outline_matching (dialect : Dialect) (column : String) (slot : Nat) :
    (dialect.matching column slot).map Piece.outline = dialect.matching "" slot := by
  cases dialect <;> rfl

@[simp]
theorem Clause.outlineEach_eq_map (parts : List Clause) :
    Clause.outlineEach parts = parts.map Clause.outline := by
  induction parts with
  | nil => rfl
  | cons part rest inductionHypothesis => rw [outlineEach, inductionHypothesis, List.map_cons]

/-- The text of the outline of a clause is the text of the clause, but for the names. -/
theorem Clause.Solid.pieces_outline {clause : Clause} (solid : clause.Solid) (dialect : Dialect) :
    clause.outline.pieces dialect = (clause.pieces dialect).map Piece.outline := by
  induction solid with
  | constant holds => rfl
  | relates column relation slot => rfl
  | differs column slot => rfl
  | among column nonempty =>
    rw [Clause.pieces, List.map_append, List.map_cons, List.map_cons, map_outline_slotPieces]
    rfl
  | notAmong column nonempty =>
    rw [Clause.pieces, List.map_append, List.map_cons, List.map_cons, List.map_cons,
      map_outline_slotPieces]
    rfl
  | present column wanted => rfl
  | matching column slot => exact (map_outline_matching dialect column slot).symm
  | @joined connective parts nonempty _ inductionHypothesis =>
    have inside : joinedPieces dialect connective (Clause.outlineEach parts) =
        (joinedPieces dialect connective parts).map Piece.outline := by
      cases parts with
      | nil => rfl
      | cons first rest =>
        obtain ⟨same, others⟩ := List.forall_mem_cons.mp inductionHypothesis
        rw [Clause.outlineEach, joinedPieces_cons, joinedPieces_cons, List.map_append,
          map_outline_separated, same, Clause.outlineEach_eq_map, List.flatMap_map]
        refine congrArg _ (List.flatMap_congr fun part member => ?_)
        rw [others part member]
    rw [Clause.outline, Clause.pieces, Clause.pieces, inside, List.map_append, List.map_cons]
    rfl

/-! ### Lowering outlines -/

theorem allFinite_outlines (items : List Value) :
    Value.allFinite (items.map fun _ => .bool false) = true := by
  induction items with
  | nil => rfl
  | cons item rest inductionHypothesis => exact inductionHypothesis

/-- What can be bound can still be bound without its contents, with as many parameters. -/
theorem Binding.outline {dialect : Dialect} {condition : Condition} {parameters : List Parameter}
    (binding : Binding dialect condition parameters) :
    ∃ others, Binding dialect condition.outline others ∧ others.length = parameters.length := by
  cases binding with
  | present wanted => exact ⟨[], .present wanted, rfl⟩
  | matching pattern => exact ⟨_, .matching "", rfl⟩
  | @list comparison items _ unordered made =>
    obtain ⟨others, bound⟩ := Parameter.exists_ofValues_iff.mpr (allFinite_outlines items)
    refine ⟨others, .list unordered bound, ?_⟩
    rw [Parameter.length_of_ofValues bound, Parameter.length_of_ofValues made, List.length_map]
  | @single comparison operand _ single _ =>
    have bound : Parameter.ofValue operand.outline = .ok (.bool false) := by
      cases operand with
      | list items => exact absurd rfl single
      | _ => rfl
    exact ⟨[.bool false], .single comparison (mt operand.kind_outline_iff.mp single) bound, rfl⟩

theorem clauseOf_outline {bound other : Parameters} (field : String) (condition : Condition)
    (size : other.size = bound.size) :
    clauseOf "" other condition.outline = (clauseOf field bound condition).outline := by
  cases condition with
  | present wanted => rfl
  | matching pattern =>
    show Clause.matching "" (other.size + 1) = .matching "" (bound.size + 1)
    rw [size]
  | compare comparison operand =>
    by_cases list : operand.kind = .list
    · obtain ⟨items, rfl⟩ := Value.exists_list_of_kind list
      have slots : other.slots (items.map fun _ => Value.bool false).length =
          bound.slots items.length := by
        rw [List.length_map, Parameters.slots, Parameters.slots, size]
      rw [Condition.outline, Value.outline, clauseOf, clauseOf, slots]
      cases bound.slots items.length <;> cases comparison <;> rfl
    · rw [Condition.outline, clauseOf_single field bound comparison list,
        clauseOf_single "" other comparison (mt operand.kind_outline_iff.mp list), size]
      cases comparison <;> rfl

mutual

/-- The outline of a filter is lowered to the outline of its clause, with as many parameters. -/
theorem Lowered.outline {dialect : Dialect} {bound after other : Parameters} {tree : Tree}
    {clause : Clause} (size : other.size = bound.size) :
    Lowered dialect bound tree clause after →
    ∃ last, Lowered dialect other tree.outline clause.outline last ∧ last.size = after.size
  | .leaf binding => by
    obtain ⟨others, bound, length⟩ := binding.outline
    refine ⟨other.append others, ?_, ?_⟩
    · rw [Tree.outline, ← clauseOf_outline _ _ size]
      exact .leaf bound
    · simp [size, length]
  | .group nonempty each => by
    obtain ⟨last, lowered, same⟩ := LoweredAll.outline size each
    exact ⟨last, .group (mt Tree.outlineEach_eq_nil_iff.mp nonempty) lowered, same⟩

theorem LoweredAll.outline {dialect : Dialect} {bound after other : Parameters}
    {trees : List Tree} {parts : List Clause} (size : other.size = bound.size) :
    LoweredAll dialect bound trees parts after →
    ∃ last, LoweredAll dialect other (Tree.outlineEach trees) (Clause.outlineEach parts) last ∧
      last.size = after.size
  | .nil => ⟨other, .nil, size⟩
  | .cons head tail => by
    obtain ⟨middle, first, sizeMiddle⟩ := head.outline size
    obtain ⟨last, others, sizeLast⟩ := LoweredAll.outline sizeMiddle tail
    exact ⟨last, .cons first others, sizeLast⟩

end

/-- Filters with one outline have clauses with one outline. -/
theorem Lowered.outline_eq {dialect : Dialect} {after otherAfter : Parameters} {tree other : Tree}
    {clause otherClause : Clause} (same : other.outline = tree.outline)
    (lowered : Lowered dialect .empty tree clause after)
    (otherLowered : Lowered dialect .empty other otherClause otherAfter) :
    otherClause.outline = clause.outline := by
  obtain ⟨_, first, _⟩ := lowered.outline rfl
  obtain ⟨_, second, _⟩ := otherLowered.outline rfl
  rw [same] at second
  have equal := (lower_of_lowered second).symm.trans (lower_of_lowered first)
  exact congrArg Prod.fst (Except.ok.inj equal)

/-! ### Names -/

/-- How often a condition uses the column of its field. An empty list is asked for without it. -/
def columnUses : Condition → Nat
  | .compare _ (.list []) => 0
  | .compare .ne _ => 2
  | .compare _ _ => 1
  | .present _ => 1
  | .matching _ => 1

@[simp]
theorem columnsOf_among (dialect : Dialect) (column : String) (slots : List Nat) :
    columnsOf (Clause.pieces dialect (.among column slots)) = [column] := by
  rw [Clause.pieces, columnsOf, List.filterMap_append]
  show column :: columnsOf (slotPieces slots) ++ [] = [column]
  simp

@[simp]
theorem columnsOf_notAmong (dialect : Dialect) (column : String) (slots : List Nat) :
    columnsOf (Clause.pieces dialect (.notAmong column slots)) = [column, column] := by
  rw [Clause.pieces, columnsOf, List.filterMap_append]
  show column :: columnsOf (slotPieces slots) ++ [column] = [column, column]
  rw [columnsOf_slotPieces]
  rfl

theorem columnsOf_clauseOf (dialect : Dialect) (field : String) (bound : Parameters)
    (condition : Condition) :
    columnsOf ((clauseOf field bound condition).pieces dialect) =
      List.replicate (columnUses condition) field := by
  cases condition with
  | present wanted => rfl
  | matching pattern =>
    cases dialect <;> rfl
  | compare comparison operand =>
    cases operand with
    | list items =>
      cases items with
      | nil =>
        cases comparison <;> rfl
      | cons item rest =>
        cases comparison with
        | ne => exact columnsOf_notAmong dialect field _
        | _ => exact columnsOf_among dialect field _
    | _ =>
      cases comparison <;> rfl

mutual

/-- The columns of a clause are the fields of the leaves. -/
theorem Lowered.columnsOf_eq {dialect : Dialect} {bound after : Parameters} {tree : Tree}
    {clause : Clause} : Lowered dialect bound tree clause after →
    columnsOf (clause.pieces dialect) =
      tree.leaves.flatMap fun leaf => List.replicate (columnUses leaf.2) leaf.1
  | .leaf _ => by
    rw [columnsOf_clauseOf, Tree.leaves, List.flatMap_singleton]
  | .group _ each => (filterMap_joined (fun _ => rfl) dialect _ _).trans each.columnsOf_eq

theorem LoweredAll.columnsOf_eq {dialect : Dialect} {bound after : Parameters}
    {trees : List Tree} {parts : List Clause} : LoweredAll dialect bound trees parts after →
    parts.flatMap (fun part => columnsOf (part.pieces dialect)) =
      (Tree.leavesOfEach trees).flatMap fun leaf => List.replicate (columnUses leaf.2) leaf.1
  | .nil => rfl
  | .cons head tail => by
    rw [List.flatMap_cons, Tree.leavesOfEach, List.flatMap_append, head.columnsOf_eq,
      tail.columnsOf_eq]

end

/-! ### Lexemes -/

theorem filterMap_name?_symbols (text : List Char) :
    (text.map Lexeme.symbol).filterMap Lexeme.name? = [] := by
  rw [List.filterMap_map, List.filterMap_eq_nil_iff]
  exact fun _ _ => rfl

@[simp]
theorem Piece.filterMap_name?_lexemes (dialect : Dialect) (piece : Piece) :
    (piece.lexemes dialect).filterMap Lexeme.name? = piece.column?.toList.map String.toList := by
  cases piece with
  | column name => rfl
  | verbatim text => exact filterMap_name?_symbols text.toList
  | slot number => exact filterMap_name?_symbols (dialect.placeholder number)

/-- The names in the text of pieces are their columns. -/
@[simp]
theorem filterMap_name?_lexemes (dialect : Dialect) (pieces : List Piece) :
    (pieces.flatMap (Piece.lexemes dialect)).filterMap Lexeme.name? =
      (columnsOf pieces).map String.toList := by
  induction pieces with
  | nil => rfl
  | cons piece rest inductionHypothesis =>
    rw [List.flatMap_cons, List.filterMap_append, piece.filterMap_name?_lexemes,
      inductionHypothesis]
    cases piece <;> rfl

theorem Piece.map_erased_lexemes (dialect : Dialect) (piece : Piece) :
    (piece.outline.lexemes dialect).map Lexeme.erased =
      (piece.lexemes dialect).map Lexeme.erased := by
  cases piece <;> rfl

/-- What stands outside of the names is a matter of the outline. -/
theorem map_erased_lexemes (dialect : Dialect) (pieces : List Piece) :
    ((pieces.map Piece.outline).flatMap (Piece.lexemes dialect)).map Lexeme.erased =
      (pieces.flatMap (Piece.lexemes dialect)).map Lexeme.erased := by
  induction pieces with
  | nil => rfl
  | cons piece rest inductionHypothesis =>
    rw [List.map_cons, List.flatMap_cons, List.flatMap_cons, List.map_append, List.map_append,
      piece.map_erased_lexemes, inductionHypothesis]

namespace Statement

variable {dialect : Dialect} {limit : Nat} {tree : Tree} {statement : Statement}

theorem scan_whereText (made : ofTree dialect limit tree = .ok statement) :
    scan dialect.quote .outside (statement.whereText dialect).toList =
      some ((statement.clause.pieces dialect).flatMap (Piece.lexemes dialect)) := by
  obtain ⟨_, lowered⟩ := ofTree_eq_ok_iff.mp made
  rw [whereText, String.toList_ofList]
  exact scan_textOf dialect (lowered.solid.settled dialect)

/-- Nothing of a filter gets into the text of its query but the names of its fields, and those
only between quotes. Every quoted name ends; the names are the fields of the leaves in their
order; and the rest of the text is the same for all filters with one outline. -/
theorem nothing_spliced (made : ofTree dialect limit tree = .ok statement) :
    ∃ lexemes,
      scan dialect.quote .outside (statement.whereText dialect).toList = some lexemes ∧
      lexemes.filterMap Lexeme.name? =
        tree.leaves.flatMap (fun leaf => List.replicate (columnUses leaf.2) leaf.1.toList) ∧
      ∀ (otherLimit : Nat) (other : Tree) (otherStatement : Statement),
        ofTree dialect otherLimit other = .ok otherStatement → other.outline = tree.outline →
        ∃ otherLexemes,
          scan dialect.quote .outside (otherStatement.whereText dialect).toList =
            some otherLexemes ∧
          otherLexemes.map Lexeme.erased = lexemes.map Lexeme.erased := by
  obtain ⟨_, lowered⟩ := ofTree_eq_ok_iff.mp made
  refine ⟨_, scan_whereText made, ?_, fun otherLimit other otherStatement otherMade same => ?_⟩
  · rw [filterMap_name?_lexemes, lowered.columnsOf_eq, List.map_flatMap]
    refine List.flatMap_congr fun leaf _ => ?_
    rw [List.map_replicate]
  · obtain ⟨_, otherLowered⟩ := ofTree_eq_ok_iff.mp otherMade
    have outlines : (otherStatement.clause.pieces dialect).map Piece.outline =
        (statement.clause.pieces dialect).map Piece.outline := by
      rw [← otherLowered.solid.pieces_outline, ← lowered.solid.pieces_outline,
        lowered.outline_eq same otherLowered]
    refine ⟨_, scan_whereText otherMade, ?_⟩
    rw [← map_erased_lexemes, outlines, map_erased_lexemes]

/-- A name that tries to leave its quotes stays one name. -/
theorem quote_in_name_stays_inside :
    ∃ statement lexemes,
      ofTree .postgres 1 (.leaf "a\" OR 1=1 --" (.compare .ne (.str "x"))) = .ok statement ∧
      statement.whereText .postgres =
        "(\"a\"\" OR 1=1 --\" <> $1 OR \"a\"\" OR 1=1 --\" IS NULL)" ∧
      scan '"' .outside (statement.whereText .postgres).toList = some lexemes ∧
      lexemes.filterMap Lexeme.name? =
        ["a\" OR 1=1 --".toList, "a\" OR 1=1 --".toList] := by
  have made : ofTree .postgres 1 (.leaf "a\" OR 1=1 --" (.compare .ne (.str "x"))) =
      .ok ⟨.differs "a\" OR 1=1 --" 1, ⟨[.string "x"]⟩⟩ := rfl
  obtain ⟨lexemes, scanned, names, _⟩ := nothing_spliced made
  exact ⟨_, lexemes, made, rfl, scanned, names⟩

end Statement

end Sieve.Sql
