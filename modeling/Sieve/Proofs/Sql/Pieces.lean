/-
The pieces of a clause never run together. A name and a parameter always stand beside
text that begins or ends with a mark (a blank, a bracket or a comma), and the text between
them has neither a quote nor anything that looks like a parameter. So the text of a query
can be taken apart again at the bounds of its pieces, whatever the names are.

Clauses that come from filters are solid: no list of parameters in them is empty, and no
joined clause is without parts.
-/

import Sieve.Proofs.Sql.Lowering

namespace Sieve.Sql

open Sieve.Filter (Comparison Condition Connective Tree)

/-! ### Solid clauses -/

/-- Clauses without empty lists of parameters or parts. -/
inductive Clause.Solid : Clause → Prop where
  | constant (holds : Bool) : Solid (.constant holds)
  | relates (column : String) (relation : Relation) (slot : Nat) :
    Solid (.relates column relation slot)
  | differs (column : String) (slot : Nat) : Solid (.differs column slot)
  | among (column : String) {slots : List Nat} (nonempty : slots ≠ []) :
    Solid (.among column slots)
  | notAmong (column : String) {slots : List Nat} (nonempty : slots ≠ []) :
    Solid (.notAmong column slots)
  | present (column : String) (wanted : Bool) : Solid (.present column wanted)
  | matching (column : String) (slot : Nat) : Solid (.matching column slot)
  | joined (connective : Connective) {parts : List Clause} (nonempty : parts ≠ [])
    (each : ∀ part ∈ parts, Solid part) : Solid (.joined connective parts)

theorem solid_listClause (field : String) (comparison : Comparison) (slots : List Nat) :
    (listClause field comparison slots).Solid := by
  cases slots with
  | nil =>
    cases comparison <;> exact .constant _
  | cons slot rest =>
    cases comparison with
    | ne => exact .notAmong field (List.cons_ne_nil slot rest)
    | _ => exact .among field (List.cons_ne_nil slot rest)

theorem solid_clauseOf (field : String) (bound : Parameters) (condition : Condition) :
    (clauseOf field bound condition).Solid := by
  cases condition with
  | present wanted => exact .present field wanted
  | matching pattern => exact .matching field _
  | compare comparison operand =>
    by_cases list : operand.kind = .list
    · obtain ⟨items, rfl⟩ := Value.exists_list_of_kind list
      exact solid_listClause field comparison _
    · rw [clauseOf_single field bound comparison list]
      cases comparison with
      | ne => exact .differs field _
      | _ => exact .relates field _ _

theorem LoweredAll.parts_ne_nil {dialect : Dialect} {bound after : Parameters}
    {trees : List Tree} {parts : List Clause} (nonempty : trees ≠ []) :
    LoweredAll dialect bound trees parts after → parts ≠ []
  | .nil => absurd rfl nonempty
  | .cons _ _ => List.cons_ne_nil _ _

mutual

theorem Lowered.solid {dialect : Dialect} {bound after : Parameters} {tree : Tree}
    {clause : Clause} : Lowered dialect bound tree clause after → clause.Solid
  | .leaf _ => solid_clauseOf _ _ _
  | .group nonempty each => .joined _ (each.parts_ne_nil nonempty) (LoweredAll.solid each)

theorem LoweredAll.solid {dialect : Dialect} {bound after : Parameters} {trees : List Tree}
    {parts : List Clause} : LoweredAll dialect bound trees parts after →
    ∀ part ∈ parts, part.Solid
  | .nil => fun _ member => absurd member List.not_mem_nil
  | .cons head tail => List.forall_mem_cons.mpr ⟨head.solid, LoweredAll.solid tail⟩

end

/-! ### Parameters one after another -/

namespace Parameters

@[simp]
theorem append_nil (bound : Parameters) : bound.append [] = bound := by
  simp [append]

@[simp]
theorem append_append (bound : Parameters) (first more : List Parameter) :
    (bound.append first).append more = bound.append (first ++ more) := by
  rw [append, append, append, List.append_assoc]

@[simp]
theorem size_append (bound : Parameters) (more : List Parameter) :
    (bound.append more).size = bound.size + more.length :=
  List.length_append

/-- The numbers of further parameters go on where those before them end. -/
theorem slots_append (bound : Parameters) (first more : List Parameter) :
    bound.slots (first.length + more.length) =
      bound.slots first.length ++ (bound.append first).slots more.length := by
  rw [slots, slots, slots, size_append, Nat.add_right_comm, List.range'_append_1]

end Parameters

/-! ### Lists of pieces -/

@[simp]
theorem slotPieces_cons (first : Nat) (rest : List Nat) :
    slotPieces (first :: rest) =
      .slot first :: rest.flatMap fun slot => [.verbatim ", ", .slot slot] := by
  induction rest generalizing first with
  | nil => rfl
  | cons slot rest inductionHypothesis =>
    rw [slotPieces, inductionHypothesis slot]
    · rfl
    · exact List.cons_ne_nil slot rest

@[simp]
theorem joinedPieces_cons (dialect : Dialect) (connective : Connective) (first : Clause)
    (rest : List Clause) :
    joinedPieces dialect connective (first :: rest) =
      first.pieces dialect ++ rest.flatMap fun part =>
        .verbatim (separator connective) :: part.pieces dialect := by
  induction rest generalizing first with
  | nil =>
    simp [joinedPieces]
  | cons part rest inductionHypothesis =>
    rw [joinedPieces, inductionHypothesis part, List.flatMap_cons]
    · rfl
    · exact List.cons_ne_nil part rest

/-! ### Bounds -/

/-- The characters that words, names and parameters end at. -/
def isMark (character : Char) : Bool :=
  character = ' ' || character = '(' || character = ')' || character = ','

/-- The characters that neither quote a name in any dialect nor refer to a parameter. -/
def isPlain (character : Char) : Bool :=
  character ≠ '"' && character ≠ '\x60' && character ≠ '?' && character ≠ '$'

namespace Piece

def isPlain : Piece → Bool
  | .verbatim text => text.toList.all Sql.isPlain
  | .column _ => true
  | .slot _ => true

def startsWithMark : Piece → Bool
  | .verbatim text => text.toList.head?.any isMark
  | .column _ => false
  | .slot _ => false

def endsWithMark : Piece → Bool
  | .verbatim text => text.toList.getLast?.any isMark
  | .column _ => false
  | .slot _ => false

/-- Whether the text is plain and there is a mark at every bound between two pieces. -/
def settled : List Piece → Bool
  | [] => true
  | [piece] => piece.isPlain
  | piece :: next :: rest =>
    piece.isPlain && (piece.endsWithMark || next.startsWithMark) && settled (next :: rest)

theorem settled_cons {piece : Piece} {rest : List Piece} (plain : piece.isPlain = true)
    (mark : piece.endsWithMark = true) (right : settled rest = true) :
    settled (piece :: rest) = true := by
  cases rest with
  | nil => exact plain
  | cons next rest =>
    rw [settled, plain, mark, right]
    rfl

theorem settled_cons_of_next {piece next : Piece} {rest : List Piece}
    (plain : piece.isPlain = true) (mark : next.startsWithMark = true)
    (right : settled (next :: rest) = true) : settled (piece :: next :: rest) = true := by
  rw [settled, plain, mark, right, Bool.or_true]
  rfl

theorem settled_append {left : List Piece} {piece : Piece} {right : List Piece}
    (settledLeft : settled left = true) (mark : piece.startsWithMark = true)
    (settledRight : settled (piece :: right) = true) :
    settled (left ++ piece :: right) = true := by
  induction left with
  | nil => exact settledRight
  | cons first rest inductionHypothesis =>
    cases rest with
    | nil => exact settled_cons_of_next settledLeft mark settledRight
    | cons next rest =>
      rw [settled, Bool.and_eq_true] at settledLeft
      have tail : settled (next :: (rest ++ piece :: right)) = true :=
        inductionHypothesis settledLeft.2
      rw [List.cons_append, List.cons_append, settled, settledLeft.1, tail]
      rfl

theorem isPlain_of_cons {piece : Piece} {rest : List Piece}
    (whole : settled (piece :: rest) = true) : piece.isPlain = true := by
  cases rest with
  | nil => exact whole
  | cons next rest =>
    rw [settled, Bool.and_eq_true, Bool.and_eq_true] at whole
    exact whole.1.1

theorem settled_of_cons {piece : Piece} {rest : List Piece}
    (whole : settled (piece :: rest) = true) : settled rest = true := by
  cases rest with
  | nil => rfl
  | cons next rest =>
    rw [settled, Bool.and_eq_true] at whole
    exact whole.2

theorem mark_of_cons_cons {piece next : Piece} {rest : List Piece}
    (whole : settled (piece :: next :: rest) = true) :
    piece.endsWithMark = true ∨ next.startsWithMark = true := by
  rw [settled, Bool.and_eq_true, Bool.and_eq_true, Bool.or_eq_true] at whole
  exact whole.1.2

/-- Settled pieces, and more of them after a separator each. -/
theorem settled_separated {α : Type} {text : String} {pieces : α → List Piece} {first : List Piece}
    {rest : List α} (plain : (verbatim text).isPlain = true)
    (starts : (verbatim text).startsWithMark = true)
    (ends : (verbatim text).endsWithMark = true) (settledFirst : settled first = true)
    (each : ∀ item ∈ rest, settled (pieces item) = true) :
    settled (first ++ rest.flatMap fun item => verbatim text :: pieces item) = true := by
  induction rest generalizing first with
  | nil =>
    rw [List.flatMap_nil, List.append_nil]
    exact settledFirst
  | cons item rest inductionHypothesis =>
    obtain ⟨settledItem, settledRest⟩ := List.forall_mem_cons.mp each
    rw [List.flatMap_cons, ← List.append_assoc]
    refine inductionHypothesis ?_ settledRest
    exact settled_append settledFirst starts (settled_cons plain ends settledItem)

/-- Settled pieces between an opening and a closing text. -/
theorem settled_enclosed {before after : String} {pieces : List Piece}
    (plainBefore : (verbatim before).isPlain = true)
    (ends : (verbatim before).endsWithMark = true)
    (plainAfter : (verbatim after).isPlain = true)
    (starts : (verbatim after).startsWithMark = true) (inside : settled pieces = true) :
    settled (verbatim before :: pieces ++ [verbatim after]) = true :=
  settled_cons plainBefore ends (settled_append inside starts plainAfter)

end Piece

/-! ### Clauses are settled -/

theorem settled_slotPieces {slots : List Nat} (nonempty : slots ≠ []) :
    Piece.settled (slotPieces slots) = true := by
  cases slots with
  | nil => exact absurd rfl nonempty
  | cons first rest =>
    rw [slotPieces_cons, ← List.singleton_append]
    exact Piece.settled_separated rfl rfl rfl rfl fun _ _ => rfl

theorem settled_matching (dialect : Dialect) (column : String) (slot : Nat) :
    Piece.settled (dialect.matching column slot) = true := by
  cases dialect <;> rfl

theorem settled_joinedPieces (dialect : Dialect) (connective : Connective) {parts : List Clause}
    (nonempty : parts ≠ []) (each : ∀ part ∈ parts, Piece.settled (part.pieces dialect) = true) :
    Piece.settled (joinedPieces dialect connective parts) = true := by
  cases parts with
  | nil => exact absurd rfl nonempty
  | cons first rest =>
    obtain ⟨settledFirst, settledRest⟩ := List.forall_mem_cons.mp each
    rw [joinedPieces_cons]
    cases connective <;> exact Piece.settled_separated rfl rfl rfl settledFirst settledRest

/-- In the text of a clause, no piece runs into the next one. -/
theorem Clause.Solid.settled {clause : Clause} (solid : clause.Solid) (dialect : Dialect) :
    Piece.settled (clause.pieces dialect) = true := by
  induction solid with
  | constant holds =>
    cases holds <;> rfl
  | relates column relation slot =>
    cases relation <;> rfl
  | differs column slot => rfl
  | among column nonempty =>
    have inside := settled_slotPieces nonempty
    exact Piece.settled_cons_of_next rfl rfl (Piece.settled_enclosed rfl rfl rfl rfl inside)
  | notAmong column nonempty =>
    have inside := settled_slotPieces nonempty
    have tail : Piece.settled [.verbatim ") OR ", .column column, .verbatim " IS NULL)"] = true :=
      rfl
    refine Piece.settled_cons rfl rfl (Piece.settled_cons_of_next rfl rfl ?_)
    exact Piece.settled_cons rfl rfl (Piece.settled_append inside rfl tail)
  | present column wanted =>
    cases wanted <;> rfl
  | matching column slot => exact settled_matching dialect column slot
  | joined connective nonempty _ inductionHypothesis =>
    have inside := settled_joinedPieces dialect connective nonempty inductionHypothesis
    cases connective <;> exact Piece.settled_enclosed rfl rfl rfl rfl inside

/-! ### Names and parameters -/

section Select

/- What is picked out of pieces, where text is passed over. -/
variable {α β : Type} {select : Piece → Option β} (skip : ∀ text, select (.verbatim text) = none)
include skip

theorem filterMap_separated (text : String) (pieces : α → List Piece) (items : List α) :
    (items.flatMap fun item => .verbatim text :: pieces item).filterMap select =
      items.flatMap fun item => (pieces item).filterMap select := by
  induction items with
  | nil => rfl
  | cons item rest inductionHypothesis =>
    rw [List.flatMap_cons, List.flatMap_cons, List.filterMap_append, inductionHypothesis,
      List.filterMap_cons_none (skip text)]

theorem filterMap_joined (dialect : Dialect) (connective : Connective) (parts : List Clause) :
    (Clause.pieces dialect (.joined connective parts)).filterMap select =
      parts.flatMap fun part => (part.pieces dialect).filterMap select := by
  rw [Clause.pieces, List.filterMap_append, List.filterMap_cons_none (skip _),
    List.filterMap_cons_none (skip _), List.filterMap_nil, List.append_nil]
  cases parts with
  | nil => rfl
  | cons first rest =>
    simp [filterMap_separated skip]

end Select

/-- The parameter that a piece refers to. -/
def Piece.slot? : Piece → Option Nat
  | .verbatim _ => none
  | .column _ => none
  | .slot number => some number

/-- The name of the column that a piece is. -/
def Piece.column? : Piece → Option String
  | .verbatim _ => none
  | .column name => some name
  | .slot _ => none

/-- The parameters that pieces refer to, in their order. -/
def slotsOf (pieces : List Piece) : List Nat :=
  pieces.filterMap Piece.slot?

/-- The names of columns among pieces, in their order. -/
def columnsOf (pieces : List Piece) : List String :=
  pieces.filterMap Piece.column?

@[simp]
theorem slotsOf_slotPieces (slots : List Nat) : slotsOf (slotPieces slots) = slots := by
  cases slots with
  | nil => rfl
  | cons first rest =>
    have skip : ∀ text, Piece.slot? (.verbatim text) = none := fun _ => rfl
    have others := filterMap_separated skip ", " (fun slot => [.slot slot]) rest
    rw [slotPieces_cons, slotsOf, List.filterMap_cons_some (f := Piece.slot?) rfl, others]
    exact congrArg (first :: ·) (List.flatMap_singleton' rest)

@[simp]
theorem columnsOf_slotPieces (slots : List Nat) : columnsOf (slotPieces slots) = [] := by
  cases slots with
  | nil => rfl
  | cons first rest =>
    have skip : ∀ text, Piece.column? (.verbatim text) = none := fun _ => rfl
    have others := filterMap_separated skip ", " (fun slot => [.slot slot]) rest
    rw [slotPieces_cons, columnsOf, List.filterMap_cons_none rfl, others]
    exact List.flatMap_eq_nil_iff.mpr fun _ _ => rfl

@[simp]
theorem slotsOf_among (dialect : Dialect) (column : String) (slots : List Nat) :
    slotsOf (Clause.pieces dialect (.among column slots)) = slots := by
  rw [Clause.pieces, slotsOf, List.filterMap_append]
  show slotsOf (slotPieces slots) ++ [] = slots
  simp

@[simp]
theorem slotsOf_notAmong (dialect : Dialect) (column : String) (slots : List Nat) :
    slotsOf (Clause.pieces dialect (.notAmong column slots)) = slots := by
  rw [Clause.pieces, slotsOf, List.filterMap_append]
  show slotsOf (slotPieces slots) ++ [] = slots
  simp

@[simp]
theorem slotsOf_listClause (dialect : Dialect) (field : String) (comparison : Comparison)
    (slots : List Nat) :
    slotsOf ((listClause field comparison slots).pieces dialect) = slots := by
  cases slots with
  | nil =>
    cases comparison <;> rfl
  | cons slot rest =>
    cases comparison with
    | ne => exact slotsOf_notAmong dialect field (slot :: rest)
    | _ => exact slotsOf_among dialect field (slot :: rest)

@[simp]
theorem slotsOf_matching (dialect : Dialect) (column : String) (slot : Nat) :
    slotsOf (dialect.matching column slot) = [slot] := by
  cases dialect <;> rfl

/-- A leaf refers to its own parameters, in the order in which they were added. -/
theorem slotsOf_clauseOf {dialect : Dialect} {condition : Condition}
    {parameters : List Parameter} (field : String) (bound : Parameters)
    (binding : Binding dialect condition parameters) :
    slotsOf ((clauseOf field bound condition).pieces dialect) =
      bound.slots parameters.length := by
  cases binding with
  | present wanted => rfl
  | matching pattern => exact slotsOf_matching dialect field _
  | list _ made => simp [clauseOf, Parameter.length_of_ofValues made]
  | single comparison single _ =>
    rw [clauseOf_single field bound comparison single]
    cases comparison <;> rfl

mutual

/-- A clause refers to the parameters that were added for it, each of them once and in their
order. -/
theorem Lowered.slotsOf_eq {dialect : Dialect} {bound after : Parameters} {tree : Tree}
    {clause : Clause} : Lowered dialect bound tree clause after →
    ∃ more, after = bound.append more ∧
      slotsOf (clause.pieces dialect) = bound.slots more.length
  | .leaf binding => ⟨_, rfl, slotsOf_clauseOf _ bound binding⟩
  | .group _ each => by
    obtain ⟨more, rfl, slots⟩ := LoweredAll.slotsOf_eq each
    exact ⟨more, rfl, (filterMap_joined (fun _ => rfl) dialect _ _).trans slots⟩

theorem LoweredAll.slotsOf_eq {dialect : Dialect} {bound after : Parameters} {trees : List Tree}
    {parts : List Clause} : LoweredAll dialect bound trees parts after →
    ∃ more, after = bound.append more ∧
      parts.flatMap (fun part => slotsOf (part.pieces dialect)) = bound.slots more.length
  | .nil => ⟨[], bound.append_nil.symm, rfl⟩
  | .cons head tail => by
    obtain ⟨first, rfl, slots⟩ := head.slotsOf_eq
    obtain ⟨more, rfl, others⟩ := LoweredAll.slotsOf_eq tail
    refine ⟨first ++ more, bound.append_append first more, ?_⟩
    rw [List.flatMap_cons, slots, others, List.length_append, bound.slots_append]

end

end Sieve.Sql
