/-
The text of a statement and its parameters belong together. Leaf by leaf, from left to
right, the parameters are what the conditions bind; and the text refers to them one after
another, as often as there are parameters and in their order.

Placeholders are looked for where a database looks for them, outside of quoted names, and
in every spelling that a dialect has. A name may contain question marks and dollar signs:
it is one lexeme, and none of them counts. A number after a dollar sign ends where its piece
ends, as what follows in settled pieces begins with a mark and not with a digit.
-/

import Mathlib.Data.List.Forall2
import Sieve.Proofs.Filter.Outline
import Sieve.Proofs.Sql.Lexeme

namespace Sieve.Sql

open Sieve.Filter (Condition Tree)

/-! ### What is bound -/

/-- What a condition binds to one parameter: an operand, or a pattern, to which a dialect may
add. -/
inductive Source where
  | operand (value : Value)
  | pattern (text : String)

/-- What a condition binds, in the order of its parameters. -/
def sourcesOf : Condition → List Source
  | .compare _ (.list items) => items.map .operand
  | .compare _ operand => [.operand operand]
  | .present _ => []
  | .matching pattern => [.pattern pattern]

/-- Whether a dialect binds a source as a parameter. -/
def Source.IsBoundAs (dialect : Dialect) : Source → Parameter → Prop
  | .operand value, parameter => Parameter.ofValue value = .ok parameter
  | .pattern text, parameter => parameter = .string (dialect.pattern text)

theorem sourcesOf_single (comparison : Filter.Comparison) {operand : Value}
    (single : operand.kind ≠ .list) :
    sourcesOf (.compare comparison operand) = [.operand operand] := by
  cases operand with
  | list items => exact absurd rfl single
  | _ => rfl

theorem isBoundAs_of_ofValues (dialect : Dialect) {operands : List Value}
    {parameters : List Parameter} (made : Parameter.ofValues operands = .ok parameters) :
    List.Forall₂ (Source.IsBoundAs dialect) (operands.map .operand) parameters :=
  List.forall₂_map_left_iff.mpr (Parameter.ofValues_eq_ok_iff.mp made)

/-- A condition has one parameter for each thing that it binds. -/
theorem Binding.isBoundAs {dialect : Dialect} {condition : Condition}
    {parameters : List Parameter} (binding : Binding dialect condition parameters) :
    List.Forall₂ (Source.IsBoundAs dialect) (sourcesOf condition) parameters := by
  cases binding with
  | present wanted => exact .nil
  | matching pattern => exact .cons rfl .nil
  | list _ made => exact isBoundAs_of_ofValues dialect made
  | single comparison single made =>
    rw [sourcesOf_single comparison single]
    exact .cons made .nil

mutual

/-- The parameters that are added for a filter are those of its leaves, from left to right. -/
theorem Lowered.isBoundAs {dialect : Dialect} {bound after : Parameters} {tree : Tree}
    {clause : Clause} : Lowered dialect bound tree clause after →
    ∃ more, after = bound.append more ∧
      List.Forall₂ (Source.IsBoundAs dialect)
        (tree.leaves.flatMap fun leaf => sourcesOf leaf.2) more
  | .leaf binding => by
    refine ⟨_, rfl, ?_⟩
    rw [Tree.leaves, List.flatMap_singleton]
    exact binding.isBoundAs
  | .group _ each => LoweredAll.isBoundAs each

theorem LoweredAll.isBoundAs {dialect : Dialect} {bound after : Parameters} {trees : List Tree}
    {parts : List Clause} : LoweredAll dialect bound trees parts after →
    ∃ more, after = bound.append more ∧
      List.Forall₂ (Source.IsBoundAs dialect)
        ((Tree.leavesOfEach trees).flatMap fun leaf => sourcesOf leaf.2) more
  | .nil => ⟨[], bound.append_nil.symm, .nil⟩
  | .cons head tail => by
    obtain ⟨first, rfl, boundFirst⟩ := head.isBoundAs
    obtain ⟨more, rfl, boundMore⟩ := LoweredAll.isBoundAs tail
    refine ⟨first ++ more, bound.append_append first more, ?_⟩
    rw [Tree.leavesOfEach, List.flatMap_append]
    exact List.rel_append boundFirst boundMore

end

/-! ### Two dialects -/

/-- The same parameter, or one pattern that ignores the case of letters by its own words in one of
the two. -/
inductive SameButPrefix : Parameter → Parameter → Prop where
  | same (parameter : Parameter) : SameButPrefix parameter parameter
  | first (pattern : String) : SameButPrefix (.string ("(?i)" ++ pattern)) (.string pattern)
  | second (pattern : String) : SameButPrefix (.string pattern) (.string ("(?i)" ++ pattern))

theorem Dialect.sameButPrefix_pattern (dialect other : Dialect) (pattern : String) :
    SameButPrefix (.string (dialect.pattern pattern)) (.string (other.pattern pattern)) := by
  cases dialect with
  | sqlite | clickhouse =>
    cases other with
    | sqlite | clickhouse => exact .same _
    | postgres | duckdb => exact .first pattern
  | postgres | duckdb =>
    cases other with
    | sqlite | clickhouse => exact .second pattern
    | postgres | duckdb => exact .same _

theorem Source.IsBoundAs.sameButPrefix {dialect other : Dialect} {source : Source}
    {parameter otherParameter : Parameter} (bound : source.IsBoundAs dialect parameter)
    (otherBound : source.IsBoundAs other otherParameter) :
    SameButPrefix parameter otherParameter := by
  cases source with
  | operand value =>
    cases (show Parameter.ofValue value = .ok parameter from bound).symm.trans otherBound
    exact .same parameter
  | pattern text =>
    cases bound
    cases otherBound
    exact dialect.sameButPrefix_pattern other text

theorem forall₂_sameButPrefix {dialect other : Dialect} {sources : List Source}
    {parameters otherParameters : List Parameter}
    (bound : List.Forall₂ (Source.IsBoundAs dialect) sources parameters)
    (otherBound : List.Forall₂ (Source.IsBoundAs other) sources otherParameters) :
    List.Forall₂ SameButPrefix parameters otherParameters := by
  induction bound generalizing otherParameters with
  | nil =>
    cases otherBound
    exact .nil
  | cons head _ inductionHypothesis =>
    cases otherBound with
    | cons otherHead otherTail =>
      exact .cons (head.sameButPrefix otherHead) (inductionHypothesis otherTail)

/-! ### Placeholders in a text -/

/-- The digits that some lexemes start with. -/
def leadingDigits : List Lexeme → List Char
  | .symbol character :: rest => if character.isDigit then character :: leadingDigits rest else []
  | _ => []

/-- The placeholders among lexemes as they are spelled, whatever the dialect: a question mark, or
a dollar sign with the digits after it. -/
def placeholders : List Lexeme → List (List Char)
  | [] => []
  | .symbol '?' :: rest => ['?'] :: placeholders rest
  | .symbol '$' :: rest => ('$' :: leadingDigits rest) :: placeholders rest
  | _ :: rest => placeholders rest

/-- Characters of a sort that neither sign is of hold no placeholder. -/
theorem placeholders_plain {text : List Char} {plain : Char → Bool} (rest : List Lexeme)
    (question : plain '?' = false) (dollar : plain '$' = false)
    (each : ∀ character ∈ text, plain character = true) :
    placeholders (text.map .symbol ++ rest) = placeholders rest := by
  induction text with
  | nil => rfl
  | cons character text inductionHypothesis =>
    obtain ⟨first, others⟩ := List.forall_mem_cons.mp each
    rw [List.map_cons, List.cons_append, placeholders, inductionHypothesis others]
    · rintro ⟨⟩
      cases first.symm.trans question
    · rintro ⟨⟩
      cases first.symm.trans dollar

theorem leadingDigits_append {digits : List Char} {rest : List Lexeme}
    (isDigit : ∀ character ∈ digits, character.isDigit = true) (ended : leadingDigits rest = []) :
    leadingDigits (digits.map .symbol ++ rest) = digits := by
  induction digits with
  | nil => exact ended
  | cons digit digits inductionHypothesis =>
    obtain ⟨first, others⟩ := List.forall_mem_cons.mp isDigit
    rw [List.map_cons, List.cons_append, leadingDigits, if_pos first, inductionHypothesis others]

theorem isDigit_eq_false_of_isMark {character : Char} (mark : isMark character = true) :
    character.isDigit = false := by
  simp only [isMark, Bool.or_eq_true, decide_eq_true_eq] at mark
  rcases mark with ((rfl | rfl) | rfl) | rfl
  · rfl
  · rfl
  · rfl
  · rfl

theorem leadingDigits_of_startsWithMark (dialect : Dialect) {piece : Piece}
    (mark : piece.startsWithMark = true) (rest : List Lexeme) :
    leadingDigits (piece.lexemes dialect ++ rest) = [] := by
  cases piece with
  | column name => cases mark
  | slot number => cases mark
  | verbatim text =>
    have isMarked : text.toList.head?.any isMark = true := mark
    rw [Piece.lexemes]
    cases shape : text.toList with
    | nil =>
      rw [shape] at isMarked
      cases isMarked
    | cons character others =>
      rw [shape] at isMarked
      have noDigit := isDigit_eq_false_of_isMark (show isMark character = true from isMarked)
      rw [List.map_cons, List.cons_append, leadingDigits, noDigit]
      rfl

/-- A placeholder is found as it was written, if no digit follows it. -/
theorem placeholders_slot (dialect : Dialect) (number : Nat) {rest : List Lexeme}
    (ended : leadingDigits rest = []) :
    placeholders ((Piece.slot number).lexemes dialect ++ rest) =
      dialect.placeholder number :: placeholders rest := by
  cases dialect with
  | postgres =>
    have digits : ∀ character ∈ Decimal.digits number, character.isDigit = true :=
      fun _ member => Decimal.isDigit_of_mem_digits member
    show ('$' :: leadingDigits ((Decimal.digits number).map .symbol ++ rest)) ::
      placeholders ((Decimal.digits number).map .symbol ++ rest) = _
    rw [leadingDigits_append digits ended, placeholders_plain rest (by decide) (by decide) digits]
    rfl
  | _ => rfl

/-- The placeholders in the text of settled pieces are those of the parameters that the pieces
refer to. -/
theorem placeholders_pieces (dialect : Dialect) {pieces : List Piece}
    (settled : Piece.settled pieces = true) :
    placeholders (pieces.flatMap (Piece.lexemes dialect)) =
      (slotsOf pieces).map dialect.placeholder := by
  induction pieces with
  | nil => rfl
  | cons piece rest inductionHypothesis =>
    have tail := inductionHypothesis (Piece.settled_of_cons settled)
    rw [List.flatMap_cons]
    cases piece with
    | verbatim text =>
      have plain := List.all_eq_true.mp (Piece.isPlain_of_cons settled)
      rw [Piece.lexemes, placeholders_plain _ (by decide) (by decide) plain, tail]
      rfl
    | column name => exact tail
    | slot number =>
      have ended : leadingDigits (rest.flatMap (Piece.lexemes dialect)) = [] := by
        cases rest with
        | nil => rfl
        | cons next others =>
          rcases Piece.mark_of_cons_cons settled with none | mark
          · cases none
          · exact leadingDigits_of_startsWithMark dialect mark _
      rw [placeholders_slot dialect number ended, tail]
      rfl

/-! ### Statements -/

namespace Statement

variable {dialect : Dialect} {limit : Nat} {tree : Tree} {statement : Statement}

theorem placeholders_whereText (made : ofTree dialect limit tree = .ok statement) :
    ∃ lexemes,
      scan dialect.quote .outside (statement.whereText dialect).toList = some lexemes ∧
      placeholders lexemes =
        (List.range' 1 statement.parameters.size).map dialect.placeholder := by
  obtain ⟨_, lowered⟩ := ofTree_eq_ok_iff.mp made
  have settled := lowered.solid.settled dialect
  obtain ⟨more, same, slots⟩ := lowered.slotsOf_eq
  have size : statement.parameters.size = more.length := by
    rw [same, Parameters.size_append]
    exact Nat.zero_add _
  refine ⟨_, ?_, (placeholders_pieces dialect settled).trans ?_⟩
  · rw [whereText, String.toList_ofList]
    exact scan_textOf dialect settled
  · rw [slots, size]
    rfl

/-- The parameters of a statement are what the leaves of the filter bind, from left to right: one
for a single operand, one for each item of a list, the pattern as the dialect binds it, and none
where presence is asked for. The text has as many placeholders outside of names; in the one
dialect that numbers them they count from one, in the others they are question marks. A filter
has a statement in every dialect if it has one in any, and their parameters differ only in what
is put before a pattern. -/
theorem parameters_match_placeholders (made : ofTree dialect limit tree = .ok statement) :
    List.Forall₂ (Source.IsBoundAs dialect) (tree.leaves.flatMap fun leaf => sourcesOf leaf.2)
        statement.parameters.values ∧
      (∃ lexemes,
        scan dialect.quote .outside (statement.whereText dialect).toList = some lexemes ∧
        (placeholders lexemes).length = statement.parameters.size ∧
        (dialect = .postgres → placeholders lexemes =
          (List.range' 1 statement.parameters.size).map fun number =>
            '$' :: Decimal.digits number) ∧
        (dialect ≠ .postgres → placeholders lexemes =
          List.replicate statement.parameters.size ['?'])) ∧
      ∀ other, ∃ otherStatement, ofTree other limit tree = .ok otherStatement ∧
        List.Forall₂ SameButPrefix statement.parameters.values
          otherStatement.parameters.values := by
  have boundAs : ∀ {dialect : Dialect} {statement : Statement},
      ofTree dialect limit tree = .ok statement →
      List.Forall₂ (Source.IsBoundAs dialect) (tree.leaves.flatMap fun leaf => sourcesOf leaf.2)
        statement.parameters.values := by
    intro dialect statement made
    obtain ⟨_, lowered⟩ := ofTree_eq_ok_iff.mp made
    obtain ⟨more, same, bound⟩ := lowered.isBoundAs
    rw [same]
    exact bound
  refine ⟨boundAs made, ?_, fun other => ?_⟩
  · obtain ⟨lexemes, scanned, spelled⟩ := placeholders_whereText made
    refine ⟨lexemes, scanned, ?_, ?_, fun unnumbered => ?_⟩
    · rw [spelled, List.length_map, List.length_range']
    · rintro rfl
      exact spelled
    · have question : dialect.placeholder = fun _ => ['?'] := by
        cases dialect with
        | postgres => exact absurd rfl unnumbered
        | _ => rfl
      rw [spelled, question, List.map_const', List.length_range']
  · obtain ⟨otherStatement, otherMade⟩ :=
      exists_ofTree_iff.mpr (exists_ofTree_iff.mp ⟨statement, made⟩)
    exact ⟨otherStatement, otherMade,
      forall₂_sameButPrefix (boundAs made) (boundAs otherMade)⟩

/-- Signs of placeholders in names count for nothing, and the numbers go on through lists. -/
theorem names_hold_no_placeholders :
    ∃ statement lexemes,
      ofTree .postgres 2 (.group .nor [.leaf "a?" (.compare .ne (.list [.int 5, .bool true])),
        .leaf "b$1" (.matching "^x"), .leaf "c" (.compare .eq (.list [])),
        .leaf "d" (.present true), .leaf "\"e$2" (.compare .gt (.str "?"))]) = .ok statement ∧
      statement.parameters.values = [.integer 5, .bool true, .string "^x", .string "?"] ∧
      statement.whereText .postgres =
        "NOT COALESCE((\"a?\" NOT IN ($1, $2) OR \"a?\" IS NULL) OR \"b$1\" ~* $3 OR 1=0 OR " ++
          "\"d\" IS NOT NULL OR \"\"\"e$2\" > $4, FALSE)" ∧
      scan '"' .outside (statement.whereText .postgres).toList = some lexemes ∧
      placeholders lexemes = [['$', '1'], ['$', '2'], ['$', '3'], ['$', '4']] := by
  have made : ofTree .postgres 2 (.group .nor [.leaf "a?" (.compare .ne (.list [.int 5, .bool true])),
      .leaf "b$1" (.matching "^x"), .leaf "c" (.compare .eq (.list [])),
      .leaf "d" (.present true), .leaf "\"e$2" (.compare .gt (.str "?"))]) =
      .ok ⟨.joined .nor [.notAmong "a?" [1, 2], .matching "b$1" 3, .constant false,
        .present "d" true, .relates "\"e$2" .greater 4],
        ⟨[.integer 5, .bool true, .string "^x", .string "?"]⟩⟩ := rfl
  obtain ⟨_, ⟨lexemes, scanned, _, numbered, _⟩, _⟩ := parameters_match_placeholders made
  exact ⟨_, lexemes, made, rfl, rfl, scanned, numbered rfl⟩

end Statement

end Sieve.Sql
