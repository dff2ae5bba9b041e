/-
What becomes of the integers in the text of a filter. An integer literal in an operand that lies
in the range of 64 bits, signed or unsigned, is never changed: in the tree stands a number of
exactly its value, or the text is refused, because the literal lies beyond the signed range. A
literal that lies beyond 64 bits altogether has become a double before the filter is read. It
is taken like any other double, and its value may not be that of the literal.

The operands are found in the text by the grammar of filters, so the sources of operands and
the operands of the tree are listed in the same order.
-/

import Mathlib.Data.List.Forall2
import Sieve.Proofs.Filter.Capped
import Sieve.Proofs.Filter.Grammar
import Sieve.Proofs.Filter.Outline
import Sieve.Proofs.Json.Source

namespace Sieve

/-! ### Literals and values -/

namespace Json

namespace Literal

/-- The literal fits 64 bits only without a sign. -/
def NeedsUnsigned (literal : Literal) : Prop :=
  2 ^ 63 ≤ literal.value ∧ literal.value < 2 ^ 64

/-- A value is a number of exactly the value of the literal. -/
def Equals (literal : Literal) : Value → Prop
  | .int number => number.toInt = literal.value
  | .float number => number.isFinite = true ∧
      number.numerator = literal.value * number.denominator
  | _ => False

instance (literal : Literal) : (value : Value) → Decidable (literal.Equals value)
  | .int number => inferInstanceAs (Decidable (number.toInt = literal.value))
  | .float number => inferInstanceAs (Decidable (number.isFinite = true ∧
      number.numerator = literal.value * number.denominator))
  | .bool _ | .str _ | .list _ | .date _ | .datetime _ | .formula _ => .isFalse id

/-- What becomes of a literal in an operand that is taken: in the signed range, a number of exactly its
value, and beyond 64 bits, some double. -/
inductive Becomes (literal : Literal) (value : Value) : Prop where
  | exact (atLeast : -(2 ^ 63) ≤ literal.value) (below : literal.value < 2 ^ 63)
      (equals : literal.Equals value)
  | rounded (beyond : literal.value < -(2 ^ 63) ∨ 2 ^ 64 ≤ literal.value)
      (isFloat : value.kind = .float)

theorem becomes_toOperand {literal : Literal} {document : Json} (stands : literal.Stands document)
    (operand : document.isOperand = true) : literal.Becomes document.toOperand := by
  cases stands with
  | exact number same =>
    rw [isOperand, decide_eq_true_iff] at operand
    refine .exact (same ▸ number.atLeast) (same ▸ operand) ?_
    rw [toOperand, Equals, Value.toInt_ofInt_of_lt operand, same]
  | negativeZero number zero same =>
    refine .exact (by omega) (by omega) ⟨number.property, ?_⟩
    rw [same, zero, Int.zero_mul]
    decide
  | rounded number beyond => exact .rounded beyond rfl

theorem Becomes.not_needsUnsigned {literal : Literal} {value : Value}
    (becomes : literal.Becomes value) : ¬ literal.NeedsUnsigned := by
  rintro ⟨atLeast, below⟩
  cases becomes with
  | exact _ signed _ => omega
  | rounded beyond _ => omega

end Literal

namespace Source

mutual

/-- The integer literals of an operand, at any depth. -/
def literals : Source → List Literal
  | .integer literal => [literal]
  | .list items => literalsOfItems items
  | _ => []

def literalsOfItems : List Source → List Literal
  | [] => []
  | item :: rest => literals item ++ literalsOfItems rest

end

mutual

/-- Wherever an integer literal stands in an operand, at any depth, a relation holds between it and the
part of the value that stands there. -/
def Shows (holds : Literal → Value → Prop) : Source → Value → Prop
  | .integer literal, value => holds literal value
  | .list sources, .list values => ItemsShow holds sources values
  | .list _, _ => False
  | _, _ => True

def ItemsShow (holds : Literal → Value → Prop) : List Source → List Value → Prop
  | [], [] => True
  | source :: sources, value :: values => Shows holds source value ∧ ItemsShow holds sources values
  | _, _ => False

end

mutual

theorem shows_toOperand : (source : Source) → {document : Json} → source.Stands document →
    document.isOperand = true → source.Shows Literal.Becomes document.toOperand
  | .integer _, _, stands, operand => Literal.becomes_toOperand stands operand
  | .list sources, _, ⟨items, rfl, stand⟩, operands => itemsShow_toOperands sources stand operands
  | .null, _, _, _ | .bool _, _, _, _ | .decimal _, _, _, _ | .string _, _, _, _
  | .mapping _, _, _, _ => trivial

theorem itemsShow_toOperands : (sources : List Source) → {items : List Json} →
    ItemsStand sources items → areOperands items = true →
    ItemsShow Literal.Becomes sources (toOperands items)
  | [], _, rfl, _ => trivial
  | source :: rest, _, ⟨item, others, rfl, head, tail⟩, operands => by
    rw [areOperands, Bool.and_eq_true] at operands
    exact ⟨shows_toOperand source head operands.1, itemsShow_toOperands rest tail operands.2⟩

end

mutual

/-- Each literal of an operand stands in the relation to some part of the value. -/
theorem exists_of_shows {holds : Literal → Value → Prop} : (source : Source) → {value : Value} →
    source.Shows holds value → ∀ literal ∈ source.literals, ∃ part, holds literal part
  | .integer _, value, shows => by
    rw [literals, List.forall_mem_singleton]
    exact ⟨value, shows⟩
  | .list sources, value, shows => by
    cases value with
    | list values => exact exists_of_itemsShow sources shows
    | _ => exact False.elim shows
  | .null, _, _ | .bool _, _, _ | .decimal _, _, _ | .string _, _, _ | .mapping _, _, _ =>
    fun _ member => absurd member List.not_mem_nil

theorem exists_of_itemsShow {holds : Literal → Value → Prop} : (sources : List Source) →
    {values : List Value} → ItemsShow holds sources values →
    ∀ literal ∈ literalsOfItems sources, ∃ part, holds literal part
  | [], _, _ => fun _ member => absurd member List.not_mem_nil
  | source :: rest, values, shows => by
    cases values with
    | nil => exact False.elim shows
    | cons value others =>
      rw [literalsOfItems, List.forall_mem_append]
      exact ⟨exists_of_shows source shows.1, exists_of_itemsShow rest shows.2⟩

end

end Source

end Json

namespace Filter

open Sieve.Json (Source)

/-! ### Operands -/

/-- The operand of a comparison. -/
def Condition.operand? : Condition → Option Value
  | .compare _ operand => some operand
  | .present _ | .matching _ => none

namespace Tree

/-- The operands of the comparisons in a filter, from left to right. -/
def operands (tree : Tree) : List Value :=
  tree.leaves.filterMap fun leaf => leaf.2.operand?

def operandsOfEach (trees : List Tree) : List Value :=
  (leavesOfEach trees).filterMap fun leaf => leaf.2.operand?

@[simp]
theorem operandsOfEach_cons (tree : Tree) (rest : List Tree) :
    operandsOfEach (tree :: rest) = tree.operands ++ operandsOfEach rest := by
  rw [operandsOfEach, leavesOfEach, List.filterMap_append]
  rfl

@[simp]
theorem operands_conjunction (trees : List Tree) :
    (conjunction trees).operands = operandsOfEach trees := by
  match trees with
  | [tree] =>
    rw [operandsOfEach_cons]
    exact (List.append_nil _).symm
  | [] | _ :: _ :: _ => rfl

end Tree

/-- The sources of operands: that of an entry in a mapping of operators, if it is a comparison. -/
def comparedOperands (key : String) (source : Source) : List Source :=
  match operation? key with
  | some (.compare _) => [source]
  | _ => []

mutual

/-- The sources of the operands of comparisons in the value of a field, in their order. -/
def fieldOperands : Source → List Source
  | .mapping members => fieldEntryOperands members
  | source => [source]

def fieldEntryOperands : List (String × Source) → List Source
  | [] => []
  | (key, source) :: rest =>
    (if isOperatorKey key then comparedOperands key source else fieldOperands source) ++
      fieldEntryOperands rest

end

mutual

/-- The sources of the operands of comparisons in a filter, in their order. -/
def filterOperands : Source → List Source
  | .mapping members => entryOperands members
  | _ => []

def entryOperands : List (String × Source) → List Source
  | [] => []
  | (key, source) :: rest =>
    (if isOperatorKey key then filterListOperands source else fieldOperands source) ++
      entryOperands rest

def filterListOperands : Source → List Source
  | .list items => itemOperands items
  | _ => []

def itemOperands : List Source → List Source
  | [] => []
  | item :: rest => filterOperands item ++ itemOperands rest

end

/-! ### Operands in the text and in the tree -/

theorem show_comparedOperands (field key : String) {source : Source} {document : Json}
    (stands : source.Stands document) (condition : isCondition key document = true) :
    List.Forall₂ (Source.Shows Json.Literal.Becomes) (comparedOperands key source)
      (Tree.leaf field (conditionOf key document)).operands := by
  unfold comparedOperands isCondition conditionOf at *
  cases named : operation? key with
  | none =>
    rw [named] at condition
    cases condition
  | some operation =>
    rw [named] at condition
    cases operation with
    | compare comparison =>
      have operand : document.isOperand = true := (Bool.and_eq_true_iff.mp condition).1
      exact .cons (source.shows_toOperand stands operand) .nil
    | presence | matching => exact .nil

theorem isFieldValue_of_bare {document : Json} (bare : document.isMapping = false) :
    isFieldValue document = document.isOperand := by
  cases document with
  | mapping members => cases bare
  | _ => rfl

theorem fieldTree_of_bare (field : String) {document : Json} (bare : document.isMapping = false) :
    fieldTree field document = .leaf field (.compare .eq document.toOperand) := by
  cases document with
  | mapping members => cases bare
  | _ => rfl

/-- What is written as no mapping is read as none. -/
theorem isMapping_eq_false {source : Source} {document : Json} (stands : source.Stands document)
    (noMapping : ∀ members, source ≠ .mapping members) : document.isMapping = false := by
  cases source with
  | mapping members => exact absurd rfl (noMapping members)
  | integer literal =>
    rw [Source.Stands] at stands
    cases stands <;> rfl
  | decimal number =>
    cases stands
    cases number <;> rfl
  | list items =>
    obtain ⟨documents, rfl, _⟩ := stands
    rfl
  | null | bool _ | string _ =>
    cases stands
    rfl

theorem isFilter_of_bare {document : Json} (bare : document.isMapping = false) :
    isFilter document = false := by
  cases document with
  | mapping members => cases bare
  | _ => rfl

theorem shows_bare (field : String) {source : Source} {document : Json}
    (stands : source.Stands document) (noMapping : ∀ members, source ≠ .mapping members)
    (value : isFieldValue document = true) :
    List.Forall₂ (Source.Shows Json.Literal.Becomes) [source]
      (fieldTree field document).operands := by
  have bare := isMapping_eq_false stands noMapping
  rw [isFieldValue_of_bare bare] at value
  rw [fieldTree_of_bare field bare]
  exact .cons (source.shows_toOperand stands value) .nil

mutual

theorem show_fieldOperands (field : String) : (source : Source) → {document : Json} →
    source.Stands document → isFieldValue document = true →
    List.Forall₂ (Source.Shows Json.Literal.Becomes) (fieldOperands source)
      (fieldTree field document).operands
  | .mapping sources, _, ⟨members, rfl, stand⟩, value => by
    rw [isFieldValue, Bool.and_eq_true] at value
    rw [fieldTree, Tree.operands_conjunction]
    exact show_fieldEntryOperands field sources stand value.2
  | .null, _, stands, value | .bool _, _, stands, value | .string _, _, stands, value
  | .integer _, _, stands, value | .decimal _, _, stands, value | .list _, _, stands, value =>
    shows_bare field stands (by simp) value

theorem show_fieldEntryOperands (field : String) : (sources : List (String × Source)) →
    {members : List (String × Json)} → Source.MembersStand sources members →
    areFieldEntries members = true →
    List.Forall₂ (Source.Shows Json.Literal.Becomes) (fieldEntryOperands sources)
      (Tree.operandsOfEach (fieldTrees field members))
  | [], _, rfl, _ => .nil
  | (key, source) :: rest, _, ⟨document, others, rfl, head, tail⟩, entries => by
    rw [areFieldEntries, Bool.and_eq_true] at entries
    rw [fieldEntryOperands, fieldTrees, Tree.operandsOfEach_cons]
    refine List.rel_append ?_ (show_fieldEntryOperands field rest tail entries.2)
    by_cases marked : isOperatorKey key = true
    · rw [if_pos marked] at entries ⊢
      rw [if_pos marked]
      exact show_comparedOperands field key head entries.1
    · rw [if_neg marked] at entries ⊢
      rw [if_neg marked]
      exact show_fieldOperands (field ++ "." ++ key) source head entries.1

end

mutual

theorem show_filterOperands : (source : Source) → {document : Json} →
    source.Stands document → isFilter document = true →
    List.Forall₂ (Source.Shows Json.Literal.Becomes) (filterOperands source)
      (treeOf document).operands
  | .mapping sources, _, ⟨members, rfl, stand⟩, filter => by
    rw [isFilter, Bool.and_eq_true] at filter
    rw [treeOf, Tree.operands_conjunction]
    exact show_entryOperands sources stand filter.2
  | .null, _, stands, filter | .bool _, _, stands, filter | .string _, _, stands, filter
  | .integer _, _, stands, filter | .decimal _, _, stands, filter | .list _, _, stands, filter => by
    have bare := isMapping_eq_false stands (by simp)
    rw [isFilter_of_bare bare] at filter
    cases filter

theorem show_entryOperands : (sources : List (String × Source)) →
    {members : List (String × Json)} → Source.MembersStand sources members →
    areEntries members = true →
    List.Forall₂ (Source.Shows Json.Literal.Becomes) (entryOperands sources)
      (Tree.operandsOfEach (entryTrees members))
  | [], _, rfl, _ => .nil
  | (key, source) :: rest, _, ⟨document, others, rfl, head, tail⟩, entries => by
    rw [areEntries, Bool.and_eq_true] at entries
    rw [entryOperands, entryTrees, Tree.operandsOfEach_cons]
    refine List.rel_append ?_ (show_entryOperands rest tail entries.2)
    by_cases marked : isOperatorKey key = true
    · rw [if_pos marked] at entries ⊢
      rw [if_pos marked]
      exact show_filterListOperands _ source head (Bool.and_eq_true_iff.mp entries.1).2
    · rw [if_neg marked] at entries ⊢
      rw [if_neg marked]
      exact show_fieldOperands key source head entries.1

theorem show_filterListOperands (connective : Connective) : (source : Source) →
    {document : Json} → source.Stands document → isFilterList document = true →
    List.Forall₂ (Source.Shows Json.Literal.Becomes) (filterListOperands source)
      (groupTree connective document).operands
  | .list sources, _, ⟨items, rfl, stand⟩, filters => by
    rw [isFilterList, Bool.and_eq_true] at filters
    exact show_itemOperands sources stand filters.2
  | .null, _, rfl, filters | .bool _, _, rfl, filters | .string _, _, rfl, filters
  | .mapping _, _, ⟨_, rfl, _⟩, filters => by cases filters
  | .integer _, _, stands, filters => by
    rw [Source.Stands] at stands
    cases stands <;> cases filters
  | .decimal number, _, rfl, filters => by cases number <;> cases filters

theorem show_itemOperands : (sources : List Source) → {items : List Json} →
    Source.ItemsStand sources items → areFilters items = true →
    List.Forall₂ (Source.Shows Json.Literal.Becomes) (itemOperands sources)
      (Tree.operandsOfEach (treesOf items))
  | [], _, rfl, _ => .nil
  | source :: rest, _, ⟨item, others, rfl, head, tail⟩, filters => by
    rw [areFilters, Bool.and_eq_true] at filters
    rw [itemOperands, treesOf, Tree.operandsOfEach_cons]
    exact List.rel_append (show_filterOperands source head filters.1)
      (show_itemOperands rest tail filters.2)

end

namespace Reader

variable {limit : Nat} {text : String}

/-- The operands in the text of a filter that is taken are read, one by one, as those of its tree. -/
theorem shows_of_readText {tree : Tree}
    (read : (standard.withLimit limit).readText text = .ok tree) {source : Source}
    (written : Json.IsWritten text source) :
    List.Forall₂ (Source.Shows Json.Literal.Becomes) (filterOperands source) tree.operands := by
  obtain ⟨document, found, taken⟩ := read_of_readText read
  obtain ⟨filter, _, rfl⟩ := ((read_iff_isFilter limit document).2 tree).mp taken
  exact show_filterOperands source ((Json.written_of_read found).2 source written) filter

/-- No operand that is taken holds a literal beyond the signed range that fits 64 bits. -/
theorem not_needsUnsigned_of_shows {operands : List Source} {values : List Value}
    (shows : List.Forall₂ (Source.Shows Json.Literal.Becomes) operands values) {operand : Source}
    (member : operand ∈ operands) {literal : Json.Literal} (within : literal ∈ operand.literals) :
    ¬ literal.NeedsUnsigned := by
  induction shows with
  | nil => cases member
  | cons head _ inductionHypothesis =>
    rcases List.mem_cons.mp member with rfl | later
    · obtain ⟨_, becomes⟩ := operand.exists_of_shows head literal within
      exact becomes.not_needsUnsigned
    · exact inductionHypothesis later

/-- A text that is refused is malformed if nothing but integers beyond the signed range can be wrong
with the document in it. -/
theorem code_of_capped {reader : Reader} {fault : Fault}
    (capped : ∀ document, Json.read text = .ok document →
      ∃ tree, reader.read document.capped = .ok tree)
    (refused : reader.readText text = .error fault) : fault.code = "MALFORMED_FILTER" := by
  unfold readText at refused
  split at refused
  · cases refused
    rfl
  · split at refused
    · cases refused
      rfl
    · rename_i document found
      obtain ⟨tree, taken⟩ := capped document found
      rw [Fault.code, reader.excused_read document tree fault taken refused]
      rfl

/-- In the tree of a text that is taken, each integer literal of an operand, at any depth, stands as a
number of exactly its value, if it lies in the signed range; any other lies beyond 64 bits and has
become a double. A text with a literal in an operand that fits 64 bits only without a sign is
refused, as malformed unless there is something else wrong. -/
theorem integers_are_kept_or_refused (limit : Nat) (text : String) :
    (∀ tree, (standard.withLimit limit).readText text = .ok tree →
        (∃ source, Json.IsWritten text source) ∧
          ∀ source, Json.IsWritten text source →
            List.Forall₂ (Source.Shows Json.Literal.Becomes) (filterOperands source)
              tree.operands) ∧
      ∀ source, Json.IsWritten text source →
        (∃ operand ∈ filterOperands source, ∃ literal ∈ operand.literals, literal.NeedsUnsigned) →
          ∃ fault, (standard.withLimit limit).readText text = .error fault ∧
            ((∀ document, Json.read text = .ok document →
                ∃ tree, (standard.withLimit limit).read document.capped = .ok tree) →
              fault.code = "MALFORMED_FILTER") := by
  constructor
  · intro tree read
    obtain ⟨document, found, _⟩ := read_of_readText read
    exact ⟨(Json.written_of_read found).1, fun source written => shows_of_readText read written⟩
  · rintro source written ⟨operand, member, literal, within, large⟩
    cases read : (standard.withLimit limit).readText text with
    | ok tree =>
      exact absurd large (not_needsUnsigned_of_shows (shows_of_readText read written) member within)
    | error fault => exact ⟨fault, rfl, fun capped => code_of_capped capped read⟩

/-- A mapping with a single member. -/
theorem isWritten_member {value : List Char} {source : Source}
    (shape : text.toList = '\x7b' :: '"' :: 'a' :: '"' :: ':' :: value)
    (spells : Json.Spells (Json.skipSpaces value) source ['\x7d']) :
    Json.IsWritten text (.mapping [("a", source)]) := by
  have closed : Json.skipSpaces ['\x7d'] = ['\x7d'] := rfl
  have colon : Json.skipSpaces (':' :: value) = ':' :: value := rfl
  have name : Json.readString .none [] ('a' :: '"' :: ':' :: value) = .ok ("a", ':' :: value) := rfl
  refine ⟨[], ?_, rfl⟩
  rw [shape]
  exact .mapping (.member (.first _) rfl name colon spells (.close closed))

theorem integers_at_both_ends_of_signed :
    (let text := "\x7b\"a\":[-9223372036854775808,[9223372036854775807]]\x7d"
      ∃ tree source, (standard.withLimit 1).readText text = .ok tree ∧ Json.IsWritten text source ∧
        List.Forall₂ (Source.Shows Json.Literal.Becomes) (filterOperands source) tree.operands) ∧
      let text := "\x7b\"a\":9223372036854775808\x7d"
      ∃ source, Json.IsWritten text source ∧
        (∃ operand ∈ filterOperands source, ∃ literal ∈ operand.literals, literal.NeedsUnsigned) ∧
          ∃ fault, (standard.withLimit 1).readText text = .error fault ∧
            fault.code = "MALFORMED_FILTER" := by
  constructor
  · intro text
    have taken : ((standard.withLimit 1).readText text).toOption.isSome = true := by decide +kernel
    obtain ⟨tree, found⟩ := Option.isSome_iff_exists.mp taken
    have read := toOption_eq_some_iff.mp found
    obtain ⟨⟨source, written⟩, shows⟩ := (integers_are_kept_or_refused 1 text).1 tree read
    exact ⟨tree, source, read, written, shows source written⟩
  · intro text
    let literal : Json.Literal :=
      ⟨false, '9', "223372036854775808".toList, List.all_eq_true.mp (by decide), by decide⟩
    have digits : Json.Spells (Json.skipSpaces "9223372036854775808\x7d".toList) (.integer literal)
        ['\x7d'] :=
      .integer literal rfl rfl
    have written : Json.IsWritten text (.mapping [("a", .integer literal)]) :=
      isWritten_member (by decide) digits
    have within : ∃ operand ∈ filterOperands (.mapping [("a", .integer literal)]),
        ∃ inner ∈ operand.literals, inner.NeedsUnsigned :=
      ⟨.integer literal, List.mem_singleton_self _, literal, List.mem_singleton_self _,
        by decide +kernel, by decide +kernel⟩
    refine ⟨_, written, within, ?_⟩
    obtain ⟨fault, refused, code⟩ := (integers_are_kept_or_refused 1 text).2 _ written within
    refine ⟨fault, refused, code ?_⟩
    intro document found
    have taken : ((Json.read text).toOption.any fun document =>
        ((standard.withLimit 1).read document.capped).toOption.isSome) = true := by
      decide +kernel
    rw [found] at taken
    obtain ⟨tree, read⟩ := Option.isSome_iff_exists.mp taken
    exact ⟨tree, toOption_eq_some_iff.mp read⟩

theorem integer_beyond_unsigned_is_rounded :
    let text := "\x7b\"a\":18446744073709551617\x7d"
    ∃ tree source, standard.readText text = .ok tree ∧ Json.IsWritten text source ∧
      ¬ List.Forall₂ (Source.Shows Json.Literal.Equals) (filterOperands source) tree.operands := by
  intro text
  let literal : Json.Literal :=
    ⟨false, '1', "8446744073709551617".toList, List.all_eq_true.mp (by decide), by decide⟩
  have digits : Json.Spells (Json.skipSpaces "18446744073709551617\x7d".toList) (.integer literal)
        ['\x7d'] :=
    .integer literal rfl rfl
  have written : Json.IsWritten text (.mapping [("a", .integer literal)]) :=
    isWritten_member (by decide) digits
  have rounded : ((standard.readText text).toOption.any fun tree =>
      tree.operands.any fun value => !decide (literal.Equals value)) = true := by
    decide +kernel
  obtain ⟨tree, found, differs⟩ := (Option.any_eq_true _ _).mp rounded
  refine ⟨tree, _, toOption_eq_some_iff.mp found, written, fun shows => ?_⟩
  obtain ⟨value, member, unequal⟩ := List.any_eq_true.mp differs
  obtain ⟨shown, rest, equals, none, all⟩ := List.forall₂_cons_left_iff.mp shows
  cases none
  rw [all, List.mem_singleton] at member
  have same : literal.Equals value := member ▸ equals
  rw [decide_eq_true same] at unequal
  cases unequal

end Reader

end Filter

end Sieve
