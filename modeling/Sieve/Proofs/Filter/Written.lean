/-
Which trees there are filters for. Every tree can be written as a document, each leaf with its
operator and each group with its own, and the document is read as the tree again, unless the
tree holds something that no filter can ask for. This file says what that is: a name that
starts like an operator, a value that comes from a schema only, a float that is no number, a
list that is asked for its place in an order, and a group of nothing.

That nothing else is read is seen from the grammar. All of its forms build their leaves from
a name and an operator with its operand; names in several steps start with a name.
-/

import Sieve.Proofs.Filter.Shorthand
import Sieve.Proofs.Filter.WellFormed

namespace Sieve.Filter

/-! ### Conditions that can be read -/

/-- A comparison is with a value that a document can hold. -/
def Condition.IsPlain : Condition → Prop
  | .compare _ operand => operand.isPlain = true
  | .present _ => True
  | .matching _ => True

/-- A name that a field can have in a filter, and a condition that a filter can put on it. -/
structure IsReadable (field : String) (condition : Condition) : Prop where
  named : isOperatorKey field = false
  plain : condition.IsPlain
  ordered : condition.IsOrdered

theorem isOrdered_toOperand_iff {comparison : Comparison} {document : Json}
    (operand : document.isOperand = true) :
    (Condition.compare comparison document.toOperand).IsOrdered ↔
      (!(comparison.isRange && document.isList)) = true := by
  cases document with
  | null | mapping _ => cases operand
  | list items =>
    rw [Json.toOperand, Condition.IsOrdered, Json.isList, Bool.and_true, Bool.not_eq_true']
  | bool _ | integer _ | float _ | string _ =>
    exact iff_of_true trivial (congrArg not (Bool.and_false comparison.isRange))

theorem Operation.takes_compare_iff {comparison : Comparison} {document : Json} :
    (compare comparison).takes document = true ↔
      document.isOperand = true ∧
        (Condition.compare comparison document.toOperand).IsOrdered := by
  rw [takes, Bool.and_eq_true]
  exact and_congr_right fun operand => (isOrdered_toOperand_iff operand).symm

/-- What an operator makes out of an operand is a condition that can be read, on any field. -/
theorem isReadable_conditionOf {field key : String} {document : Json}
    (named : isOperatorKey field = false) (taken : isCondition key document = true) :
    IsReadable field (conditionOf key document) := by
  unfold isCondition at taken
  unfold conditionOf
  cases found : operation? key with
  | none =>
    rw [found] at taken
    cases taken
  | some operation =>
    rw [found, Option.any_some] at taken
    rw [Option.getD_some]
    cases operation with
    | compare comparison =>
      exact ⟨named, Value.isPlain_toOperand document, (Operation.takes_compare_iff.mp taken).2⟩
    | presence | matching => exact ⟨named, trivial, trivial⟩

/-! ### What is read is readable -/

theorem ne_nil_of_length {members : List (String × Json)} {trees : List Tree}
    (length : trees.length = members.length) (nonempty : (!members.isEmpty) = true) :
    trees ≠ [] := by
  rintro rfl
  cases List.length_eq_zero_iff.mp length.symm
  cases nonempty

theorem isReadable_equality {field : String} (named : isOperatorKey field = false)
    (document : Json) :
    (Tree.leaf field (.compare .eq document.toOperand)).WellFormed IsReadable := by
  refine .leaf ⟨named, Value.isPlain_toOperand document, ?_⟩
  cases document.toOperand with
  | list items => rfl
  | _ => trivial

mutual

/-- The tree of a field has names that start with the name of the field. -/
theorem isReadable_fieldTree : (document : Json) → (field : String) →
    isOperatorKey field = false → isFieldValue document = true →
    (fieldTree field document).WellFormed IsReadable
  | .mapping members, field, named, taken => by
    rw [isFieldValue, Bool.and_eq_true] at taken
    rw [fieldTree]
    exact Tree.wellFormed_conjunction (ne_nil_of_length (length_fieldTrees field members) taken.1)
      (isReadable_fieldTrees members field named taken.2)
  | .null, _, named, _ | .bool _, _, named, _ | .integer _, _, named, _ | .float _, _, named, _
  | .string _, _, named, _ | .list _, _, named, _ => isReadable_equality named _

theorem isReadable_fieldTrees : (members : List (String × Json)) → (field : String) →
    isOperatorKey field = false → areFieldEntries members = true →
    ∀ tree ∈ fieldTrees field members, tree.WellFormed IsReadable
  | [], _, _, _ => fun _ member => absurd member List.not_mem_nil
  | (key, document) :: rest, field, named, taken => by
    rw [areFieldEntries, Bool.and_eq_true] at taken
    rw [fieldTrees]
    refine List.forall_mem_cons.mpr ⟨?_, isReadable_fieldTrees rest field named taken.2⟩
    have head := taken.1
    split at head
    · rw [if_pos ‹_›]
      exact .leaf (isReadable_conditionOf named head)
    · rw [if_neg ‹_›]
      exact isReadable_fieldTree document _ (isOperatorKey_dotted key named) head

end

mutual

/-- The tree of a filter is readable. -/
theorem isReadable_treeOf : (document : Json) → isFilter document = true →
    (treeOf document).WellFormed IsReadable
  | .mapping members, taken => by
    rw [isFilter, Bool.and_eq_true] at taken
    rw [treeOf]
    exact Tree.wellFormed_conjunction (ne_nil_of_length (length_entryTrees members) taken.1)
      (isReadable_entryTrees members taken.2)
  | .null, taken | .bool _, taken | .integer _, taken | .float _, taken | .string _, taken
  | .list _, taken => by cases taken

theorem isReadable_entryTrees : (members : List (String × Json)) → areEntries members = true →
    ∀ tree ∈ entryTrees members, tree.WellFormed IsReadable
  | [], _ => fun _ member => absurd member List.not_mem_nil
  | (key, document) :: rest, taken => by
    rw [areEntries, Bool.and_eq_true] at taken
    rw [entryTrees]
    refine List.forall_mem_cons.mpr ⟨?_, isReadable_entryTrees rest taken.2⟩
    have head := taken.1
    split at head
    · rw [if_pos ‹_›]
      exact isReadable_groupTree document _ (Bool.and_eq_true_iff.mp head).2
    · rw [if_neg ‹_›]
      exact isReadable_fieldTree document key (Bool.eq_false_iff.mpr ‹_›) head

theorem isReadable_groupTree : (document : Json) → (connective : Connective) →
    isFilterList document = true → (groupTree connective document).WellFormed IsReadable
  | .list items, _, taken => by
    rw [isFilterList, Bool.and_eq_true] at taken
    refine .group (treesOf_ne_nil ?_) (isReadable_treesOf items taken.2)
    rintro rfl
    cases taken.1
  | .null, _, taken | .bool _, _, taken | .integer _, _, taken | .float _, _, taken
  | .string _, _, taken | .mapping _, _, taken => by cases taken

theorem isReadable_treesOf : (items : List Json) → areFilters items = true →
    ∀ tree ∈ treesOf items, tree.WellFormed IsReadable
  | [], _ => fun _ member => absurd member List.not_mem_nil
  | item :: rest, taken => by
    rw [areFilters, Bool.and_eq_true] at taken
    exact List.forall_mem_cons.mpr
      ⟨isReadable_treeOf item taken.1, isReadable_treesOf rest taken.2⟩

end

/-! ### Writing trees -/

/-- The key of a comparison in a filter. -/
def Comparison.marker : Comparison → String
  | .eq => "@eq"
  | .ne => "@ne"
  | .gt => "@gt"
  | .gte => "@gte"
  | .lt => "@lt"
  | .lte => "@lte"

/-- The key of a list of filters. -/
def Connective.marker : Connective → String
  | .and => "@and"
  | .or => "@or"
  | .nor => "@nor"

/-- The operator of a condition, and the document that is its operand. -/
def Condition.written : Condition → String × Json
  | .compare comparison operand => (comparison.marker, operand.toJson?.getD .null)
  | .present wanted => ("@exists", .bool wanted)
  | .matching pattern => ("@regex", .string pattern)

namespace Tree

mutual

/-- A tree as a document, with the operators of all leaves and groups. -/
def written : Tree → Json
  | .leaf field condition => .mapping [(field, .mapping [condition.written])]
  | .group connective children => .mapping [(connective.marker, .list (writtenEach children))]

def writtenEach : List Tree → List Json
  | [] => []
  | tree :: rest => written tree :: writtenEach rest

end

end Tree

example :
    (Tree.group .nor [.leaf "a.@b" (.compare .lt (.str "x")), .leaf "" (.present true)]).written =
    .mapping [("@nor", .list [.mapping [("a.@b", .mapping [("@lt", .string "x")])],
      .mapping [("", .mapping [("@exists", .bool true)])]])] := by rfl

theorem operation?_marker (comparison : Comparison) :
    operation? comparison.marker = some (.compare comparison) ∧
      isOperatorKey comparison.marker = true := by
  cases comparison <;> exact ⟨rfl, by decide⟩

theorem connective?_marker (connective : Connective) :
    connective? connective.marker = some connective ∧
      isOperatorKey connective.marker = true := by
  cases connective <;> exact ⟨rfl, by decide⟩

/-! ### What is readable is read -/

/-- A condition that can be read is the one of its operator and operand. -/
theorem Condition.conditionOf_written {condition : Condition} (plain : condition.IsPlain)
    (ordered : condition.IsOrdered) :
    isOperatorKey condition.written.1 = true ∧
      isCondition condition.written.1 condition.written.2 = true ∧
      conditionOf condition.written.1 condition.written.2 = condition := by
  cases condition with
  | compare comparison operand =>
    obtain ⟨document, taken, rfl⟩ := Value.exists_operand operand plain
    obtain ⟨found, marked⟩ := operation?_marker comparison
    rw [written, Value.toJson?_toOperand document taken, Option.getD_some]
    unfold isCondition conditionOf
    rw [found]
    exact ⟨marked, Operation.takes_compare_iff.mpr ⟨taken, ordered⟩, rfl⟩
  | present wanted => exact ⟨show isOperatorKey "@exists" = true by decide, rfl, rfl⟩
  | matching pattern => exact ⟨show isOperatorKey "@regex" = true by decide, rfl, rfl⟩

/-- An operator on a field, alone in its mapping, is a filter of one leaf. -/
theorem treeOf_operator {field key : String} (named : isOperatorKey field = false)
    (marked : isOperatorKey key = true) (document : Json) :
    isFilter (.mapping [(field, .mapping [(key, document)])]) = isCondition key document ∧
      treeOf (.mapping [(field, .mapping [(key, document)])]) =
        .leaf field (conditionOf key document) := by
  constructor
  · simp [isFilter, areEntries, isFieldValue, areFieldEntries, named, marked]
  · simp [treeOf, entryTrees, fieldTree, fieldTrees, Tree.conjunction, named, marked]

/-- A list of filters under an operator, alone in its mapping, is a filter of one group. -/
theorem treeOf_marker (connective : Connective) (items : List Json) :
    isFilter (.mapping [(connective.marker, .list items)]) = isFilterList (.list items) ∧
      treeOf (.mapping [(connective.marker, .list items)]) =
        .group connective (treesOf items) := by
  obtain ⟨found, marked⟩ := connective?_marker connective
  constructor
  · simp [isFilter, areEntries, found, marked]
  · simp [treeOf, entryTrees, groupTree, Tree.conjunction, found, marked]

theorem treesOf_writtenEach {trees : List Tree}
    (each : ∀ tree ∈ trees, isFilter tree.written = true ∧ treeOf tree.written = tree) :
    areFilters (Tree.writtenEach trees) = true ∧ treesOf (Tree.writtenEach trees) = trees := by
  induction trees with
  | nil => exact ⟨rfl, rfl⟩
  | cons tree rest inductionHypothesis =>
    obtain ⟨⟨taken, same⟩, others⟩ := List.forall_mem_cons.mp each
    obtain ⟨takenRest, sameRest⟩ := inductionHypothesis others
    rw [Tree.writtenEach, areFilters, treesOf, taken, takenRest, same, sameRest]
    exact ⟨rfl, rfl⟩

/-- A readable tree is the one of the filter that it is written as. -/
theorem treeOf_written {tree : Tree} (readable : tree.WellFormed IsReadable) :
    isFilter tree.written = true ∧ treeOf tree.written = tree := by
  induction readable with
  | @leaf field condition kept =>
    obtain ⟨marked, taken, same⟩ := condition.conditionOf_written kept.plain kept.ordered
    obtain ⟨accepted, stands⟩ := treeOf_operator kept.named marked condition.written.2
    exact ⟨accepted.trans taken, stands.trans (congrArg (Tree.leaf field) same)⟩
  | @group connective children nonempty _ inductionHypothesis =>
    obtain ⟨taken, same⟩ := treesOf_writtenEach inductionHypothesis
    obtain ⟨accepted, stands⟩ := treeOf_marker connective (Tree.writtenEach children)
    refine ⟨accepted.trans ?_, stands.trans (congrArg (Tree.group connective) same)⟩
    rw [isFilterList, taken]
    cases children with
    | nil => exact absurd rfl nonempty
    | cons child rest => rfl

namespace Reader

/-- Which trees are read, by the standard operators and with any limit: those within the limit
whose groups all have a child, whose names do not start like operators, and whose comparisons are
with plain values and ask no list for its place in an order. Each of them is read from what it is
written as. -/
theorem read_trees (limit : Nat) (tree : Tree) :
    ((∃ document, (standard.withLimit limit).read document = .ok tree) ↔
        tree.depth ≤ limit ∧ tree.WellFormed IsReadable) ∧
      ((standard.withLimit limit).read tree.written = .ok tree ↔
        tree.depth ≤ limit ∧ tree.WellFormed IsReadable) := by
  have sound : ∀ document, (standard.withLimit limit).read document = .ok tree →
      tree.depth ≤ limit ∧ tree.WellFormed IsReadable := by
    intro document read
    obtain ⟨⟨taken, shallow⟩, rfl⟩ := (answers_read limit document).eq_ok_iff.mp read
    exact ⟨shallow, isReadable_treeOf document taken⟩
  have complete : tree.depth ≤ limit ∧ tree.WellFormed IsReadable →
      (standard.withLimit limit).read tree.written = .ok tree := by
    rintro ⟨shallow, readable⟩
    obtain ⟨taken, same⟩ := treeOf_written readable
    refine (answers_read limit tree.written).eq_ok_iff.mpr ⟨⟨taken, ?_⟩, same⟩
    rw [same]
    exact shallow
  exact ⟨⟨fun ⟨document, read⟩ => sound document read, fun accepted => ⟨_, complete accepted⟩⟩,
    sound tree.written, complete⟩

end Reader

end Sieve.Filter
