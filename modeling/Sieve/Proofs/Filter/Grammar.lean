/-
The grammar of filters, apart from any reader: which documents are filters, and which tree a
filter stands for. Neither of the two knows levels, places or faults. A key means something
else at the root and in the lists of logical operators than it does below a field, so there
are two grammars, and the one of fields knows the name that the field has so far.

The reader with the standard operators accepts exactly the documents of this grammar whose
trees are not too tall, and reads from each the tree that it stands for. Reading in steps,
each step answers with a value under a condition; the conditions of the steps together are
the condition of the whole.
-/

import Sieve.Proofs.Filter.Depth
import Sieve.Proofs.Value.Operand

namespace Sieve.Filter

/-! ### Operators -/

/-- The operator on fields that a key names. -/
def operation? : String → Option Operation
  | "@eq" => some (.compare .eq)
  | "@ne" => some (.compare .ne)
  | "@gt" => some (.compare .gt)
  | "@gte" => some (.compare .gte)
  | "@lt" => some (.compare .lt)
  | "@lte" => some (.compare .lte)
  | "@exists" => some .presence
  | "@regex" => some .matching
  | _ => none

/-- The operator on lists of filters that a key names. -/
def connective? : String → Option Connective
  | "@and" => some .and
  | "@or" => some .or
  | "@nor" => some .nor
  | _ => none

namespace Operation

/-- Whether an operator takes a document for its operand: a list has no place in an order, and what
is asked about presence has to be a wish. -/
def takes : Operation → Json → Bool
  | .compare comparison, document =>
    document.isOperand && !(comparison.isRange && document.isList)
  | .presence, document => document.wish?.isSome
  | .matching, document => document.isOperand

/-- The condition that an operator and its operand stand for. -/
def conditionOf : Operation → Json → Condition
  | .compare comparison, document => .compare comparison document.toOperand
  | .presence, document => .present (document.wish?.getD false)
  | .matching, document => .matching document.pattern

end Operation

/-- Whether a key names an operator on fields that takes a document. -/
def isCondition (key : String) (document : Json) : Bool :=
  (operation? key).any fun operation => operation.takes document

/-- The condition that a key and an operand stand for. -/
def conditionOf (key : String) (document : Json) : Condition :=
  ((operation? key).getD .presence).conditionOf document

/-! ### Fields -/

mutual

/-- Whether a document can be the value of a field: an operand, or a mapping, which must not be
empty, of operators to operands and of further names to values of fields. -/
def isFieldValue : Json → Bool
  | .mapping members => !members.isEmpty && areFieldEntries members
  | document => document.isOperand

def areFieldEntries : List (String × Json) → Bool
  | [] => true
  | (key, document) :: rest =>
    (if isOperatorKey key then isCondition key document else isFieldValue document) &&
      areFieldEntries rest

end

mutual

/-- The tree that the value of a field stands for: one leaf for each condition, in their order. -/
def fieldTree (field : String) : Json → Tree
  | .mapping members => Tree.conjunction (fieldTrees field members)
  | document => .leaf field (.compare .eq document.toOperand)

def fieldTrees (field : String) : List (String × Json) → List Tree
  | [] => []
  | (key, document) :: rest =>
    (if isOperatorKey key then .leaf field (conditionOf key document)
      else fieldTree (field ++ "." ++ key) document) :: fieldTrees field rest

end

/-! ### Filters -/

mutual

/-- Whether a document is a filter: a mapping, which must not be empty, of fields to their values and
of logical operators to lists of filters, which must not be empty either. -/
def isFilter : Json → Bool
  | .mapping members => !members.isEmpty && areEntries members
  | _ => false

def areEntries : List (String × Json) → Bool
  | [] => true
  | (key, document) :: rest =>
    (if isOperatorKey key then (connective? key).isSome && isFilterList document
      else isFieldValue document) && areEntries rest

def isFilterList : Json → Bool
  | .list items => !items.isEmpty && areFilters items
  | _ => false

def areFilters : List Json → Bool
  | [] => true
  | item :: rest => isFilter item && areFilters rest

end

mutual

/-- The tree that a filter stands for; what is no filter counts as an empty group. -/
def treeOf : Json → Tree
  | .mapping members => Tree.conjunction (entryTrees members)
  | _ => .group .and []

def entryTrees : List (String × Json) → List Tree
  | [] => []
  | (key, document) :: rest =>
    (if isOperatorKey key then groupTree ((connective? key).getD .and) document
      else fieldTree key document) :: entryTrees rest

def groupTree (connective : Connective) : Json → Tree
  | .list items => .group connective (treesOf items)
  | _ => .group connective []

def treesOf : List Json → List Tree
  | [] => []
  | item :: rest => treeOf item :: treesOf rest

end

@[simp]
theorem length_fieldTrees (field : String) (members : List (String × Json)) :
    (fieldTrees field members).length = members.length := by
  induction members with
  | nil => rfl
  | cons member rest inductionHypothesis =>
    rw [fieldTrees, List.length_cons, List.length_cons, inductionHypothesis]

@[simp]
theorem length_entryTrees (members : List (String × Json)) :
    (entryTrees members).length = members.length := by
  induction members with
  | nil => rfl
  | cons member rest inductionHypothesis =>
    rw [entryTrees, List.length_cons, List.length_cons, inductionHypothesis]

theorem treesOf_ne_nil {items : List Json} (nonempty : items ≠ []) : treesOf items ≠ [] := by
  cases items with
  | nil => exact absurd rfl nonempty
  | cons item rest => exact List.cons_ne_nil _ _

/-! ### Answers -/

/-- The outcome is a value if a condition holds, and a fault otherwise. -/
inductive Answers {α : Type} (condition : Prop) (value : α) : Except Fault α → Prop where
  | value (holds : condition) : Answers condition value (.ok value)
  | fault (fault : Fault) (fails : ¬ condition) : Answers condition value (.error fault)

namespace Answers

variable {α β : Type} {condition next : Prop} {value : α} {result : β}
  {first : Except Fault α}

theorem eq_ok_iff (answers : Answers condition value first) {read : α} :
    first = .ok read ↔ condition ∧ value = read := by
  cases answers with
  | value holds => rw [Except.ok.injEq, and_iff_right holds]
  | fault fault fails =>
    constructor
    · intro impossible
      cases impossible
    · intro both
      exact absurd both.1 fails

theorem congr (answers : Answers condition value first) (same : condition ↔ next) :
    Answers next value first := by
  cases answers with
  | value holds => exact .value (same.mp holds)
  | fault fault fails => exact .fault fault (mt same.mpr fails)

theorem map (function : α → β) (answers : Answers condition value first) :
    Answers condition (function value) (first.map function) := by
  cases answers with
  | value holds => exact .value holds
  | fault fault fails => exact .fault fault fails

theorem bind {following : α → Except Fault β} (answers : Answers condition value first)
    (after : condition → Answers next result (following value)) :
    Answers (condition ∧ next) result (first.bind following) := by
  cases answers with
  | value holds => exact (after holds).congr (and_iff_right holds).symm
  | fault fault fails => exact .fault fault fun both => fails both.1

theorem cons {rest : Except Fault (List α)} {values : List α} (head : Answers condition value first)
    (tail : Answers next values rest) :
    Answers (condition ∧ next) (value :: values)
      (first.bind fun value => rest.map (value :: ·)) :=
  head.bind fun _ => tail.map (value :: ·)

/-- Where nothing but a fault can follow, there is never a value. -/
theorem of_fault (first : Except Fault α) (fault : Fault) (fails : ¬ next) :
    Answers next result (first.bind fun _ => .error fault) := by
  cases first with
  | error earlier => exact .fault earlier fails
  | ok value => exact .fault fault fails

end Answers

namespace Reader

variable {limit : Nat}

/-! ### Leaves -/

theorem answers_checkLevel (path : Path) (level : Nat) :
    Answers (level ≤ limit) () ((standard.withLimit limit).checkLevel path level) := by
  by_cases shallow : level ≤ limit
  · rw [show (standard.withLimit limit).checkLevel path level = .ok () from if_pos shallow]
    exact .value shallow
  · rw [show (standard.withLimit limit).checkLevel path level = .error ⟨.tooDeep limit, path⟩ from
      if_neg shallow]
    exact .fault _ shallow

theorem answers_operand (path : Path) (document : Json) :
    Answers (document.isOperand = true) document.toOperand (operand path document) := by
  unfold operand
  cases read : Value.ofJson document with
  | error rejection =>
    refine .fault _ fun isOperand => ?_
    cases read.symm.trans ((Value.ofJson_eq_ok_iff document).mpr ⟨isOperand, rfl⟩)
  | ok value =>
    obtain ⟨isOperand, rfl⟩ := (Value.ofJson_eq_ok_iff document).mp read
    exact .value isOperand

theorem comparedOperand_standard (path : Path) (field : String) (document : Json) :
    (standard.withLimit limit).comparedOperand path field document = operand path document := by
  unfold comparedOperand
  cases operand path document with
  | error fault => rfl
  | ok value => rfl

@[simp]
theorem operatorOperand_standard (path : Path) (field : String) (category : Category)
    (document : Json) :
    (standard.withLimit limit).operatorOperand path field category document =
      operand path document := by
  unfold operatorOperand
  rw [comparedOperand_standard, ite_self]

theorem answers_compareWith (path : Path) (comparison : Comparison) {document : Json}
    (operand : document.isOperand = true) :
    Answers ((Operation.compare comparison).takes document = true)
      (.compare comparison document.toOperand)
      ((compareWith comparison document.toOperand).mapError (OperandFault.atPath path)) := by
  rw [Operation.takes, operand, Bool.true_and]
  cases document with
  | null | mapping _ => cases operand
  | list items =>
    rw [Json.toOperand, compareWith, Json.isList, Bool.and_true]
    cases comparison.isRange with
    | true => exact .fault _ (by decide)
    | false => exact .value rfl
  | bool _ | integer _ | float _ | string _ =>
    exact .value (congrArg not (Bool.and_false comparison.isRange))

theorem isOperand_of_wish {document : Json} (stated : document.wish?.isSome = true) :
    document.isOperand = true := by
  cases document with
  | null | mapping _ | list _ => cases stated
  | bool _ | float _ | string _ => rfl
  | integer number =>
    rw [Json.isOperand, decide_eq_true_iff]
    unfold Json.wish? at stated
    dsimp only at stated
    split at stated
    · omega
    · split at stated
      · omega
      · cases stated

theorem isOperand_of_takes {operation : Operation} {document : Json}
    (taken : operation.takes document = true) : document.isOperand = true := by
  cases operation with
  | compare comparison => exact (Bool.and_eq_true_iff.mp taken).1
  | presence => exact isOperand_of_wish taken
  | matching => exact taken

theorem answers_condition (path : Path) (operation : Operation) {document : Json}
    (operand : document.isOperand = true) :
    Answers (operation.takes document = true) (operation.conditionOf document)
      ((operation.condition document.toOperand).mapError (OperandFault.atPath path)) := by
  cases operation with
  | compare comparison => exact answers_compareWith path comparison operand
  | presence =>
    rw [Operation.condition, Operation.takes, Operation.conditionOf, Value.coerce,
      Value.convert?_bool_toOperand operand]
    cases document.wish? with
    | none => exact .fault _ (by decide)
    | some wanted => exact .value rfl
  | matching =>
    rw [Operation.condition, Value.coerce_str_toOperand operand]
    exact .value operand

/-! ### Standard operators -/

theorem operation?_of_mem : ∀ operator ∈ Registry.standardOperators,
    operation? operator.marker =
      match operator.builder with
      | .field operation => some operation
      | .logical _ => none := by
  decide

theorem connective?_of_mem : ∀ operator ∈ Registry.standardOperators,
    connective? operator.marker =
      match operator.builder with
      | .field _ => none
      | .logical connective => some connective := by
  decide

/-- A key that no standard operator has names none in the grammar. -/
theorem operation?_of_resolve?_eq_none {key : String}
    (unknown : Registry.standard.resolve? key = none) :
    operation? key = none ∧ connective? key = none := by
  constructor
  · unfold operation?
    split
    case h_9 => rfl
    all_goals cases unknown
  · unfold connective?
    split
    case h_4 => rfl
    all_goals cases unknown

theorem mem_of_resolve?_eq_some {key : String} {operator : Operator}
    (found : Registry.standard.resolve? key = some operator) :
    operator ∈ Registry.standardOperators ∧ operator.marker = key := by
  rw [Registry.resolve?_eq_find?] at found
  exact ⟨List.mem_of_find?_eq_some found, of_decide_eq_true (List.find?_some found :)⟩

theorem answers_resolveLogical (path : Path) (key : String) :
    Answers ((connective? key).isSome = true) ((connective? key).getD .and)
      ((standard.withLimit limit).resolveLogical path key) := by
  unfold resolveLogical resolve
  cases found : (standard.withLimit limit).registry.resolve? key with
  | none =>
    rw [(operation?_of_resolve?_eq_none found).2]
    exact .fault _ (by decide)
  | some operator =>
    obtain ⟨member, rfl⟩ := mem_of_resolve?_eq_some found
    rw [connective?_of_mem operator member]
    dsimp only
    cases operator.builder with
    | logical connective => exact .value rfl
    | field operation => exact .fault _ Bool.false_ne_true

/-- What an operator of the table makes out of a document. -/
theorem answers_conditionOf (path : Path) (field : String) {operator : Operator}
    (member : operator ∈ Registry.standardOperators) (document : Json) :
    Answers (isCondition operator.marker document = true)
      (Filter.conditionOf operator.marker document)
      ((standard.withLimit limit).conditionOf path field operator.marker operator document) := by
  unfold isCondition Filter.conditionOf conditionOf
  rw [operation?_of_mem operator member]
  cases operator.builder with
  | logical connective => exact .fault _ Bool.false_ne_true
  | field operation =>
    dsimp only
    rw [operatorOperand_standard]
    refine ((answers_operand path document).bind (answers_condition path operation)).congr ?_
    exact and_iff_right_of_imp isOperand_of_takes

theorem answers_readCondition (path : Path) (level : Nat) (field key : String) (document : Json) :
    Answers
      (isCondition key document = true ∧
        FitsAt limit level (.leaf field (Filter.conditionOf key document)))
      (.leaf field (Filter.conditionOf key document))
      ((standard.withLimit limit).readCondition path level field key document) := by
  have made : Answers (isCondition key document = true)
      (.leaf field (Filter.conditionOf key document))
      (((standard.withLimit limit).resolve path key).bind fun operator =>
        ((standard.withLimit limit).conditionOf path field key operator document).map
          (Tree.leaf field)) := by
    unfold resolve
    cases found : (standard.withLimit limit).registry.resolve? key with
    | none =>
      refine .fault _ ?_
      rw [isCondition, (operation?_of_resolve?_eq_none found).1]
      exact Bool.false_ne_true
    | some operator =>
      obtain ⟨member, rfl⟩ := mem_of_resolve?_eq_some found
      exact (answers_conditionOf path field member document).map (Tree.leaf field)
  rw [readCondition_eq]
  refine ((answers_checkLevel path level).bind fun _ => made).congr ?_
  simp [and_comm]

theorem answers_readField_operand (path : Path) (level : Nat) (field : String) {document : Json}
    (bare : document.isMapping = false) :
    Answers
      (document.isOperand = true ∧
        FitsAt limit level (.leaf field (.compare .eq document.toOperand)))
      (.leaf field (.compare .eq document.toOperand))
      ((standard.withLimit limit).readField path level field document) := by
  rw [readField_operand _ _ _ _ bare, readEquality_eq, comparedOperand_standard]
  refine ((answers_checkLevel path level).bind fun _ =>
    (answers_operand path document).map fun value =>
      Tree.leaf field (.compare .eq value)).congr ?_
  simp [and_comm]

/-! ### Mappings and lists -/

/-- The step of a mapping. What is said of its entries holds on the level that they get, which is
that of the mapping for a single one, and the next one for several. -/
theorem answers_mapping (path : Path) (level : Nat) (members : List (String × Json))
    {accepted : Bool} {trees : List Tree} {entries : Nat → Except Fault (List Tree)}
    (length : trees.length = members.length)
    (each : ∀ inner, Answers (accepted = true ∧ ∀ tree ∈ trees, FitsAt limit inner tree) trees
      (entries inner)) :
    Answers
      ((!members.isEmpty && accepted) = true ∧ FitsAt limit level (Tree.conjunction trees))
      (Tree.conjunction trees)
      (((standard.withLimit limit).entryLevel path level members).bind fun inner =>
        (entries inner).map Tree.conjunction) := by
  match members with
  | [] => exact .fault _ fun both => by cases both.1
  | [_] =>
    obtain ⟨tree, rfl⟩ := List.length_eq_one_iff.mp length
    refine ((each level).map Tree.conjunction).congr ?_
    rw [List.forall_mem_singleton]
    rfl
  | _ :: _ :: _ =>
    have several : 1 < trees.length := by
      rw [length]
      exact Nat.succ_lt_succ (Nat.succ_pos _)
    refine (((answers_checkLevel path level).map fun _ => level + 1).bind fun _ =>
      (each (level + 1)).map Tree.conjunction).congr ?_
    constructor
    · rintro ⟨_, taken, fitting⟩
      exact ⟨taken, (fitsAt_conjunction several).mpr fitting⟩
    · rintro ⟨taken, fitting⟩
      exact ⟨fitting.level_le, taken, (fitsAt_conjunction several).mp fitting⟩

mutual

theorem answers_readField (path : Path) (level : Nat) (field : String) : (document : Json) →
    Answers (isFieldValue document = true ∧ FitsAt limit level (fieldTree field document))
      (fieldTree field document)
      ((standard.withLimit limit).readField path level field document)
  | .mapping members => by
    rw [readField_mapping, isFieldValue, fieldTree]
    exact answers_mapping path level members (length_fieldTrees field members)
      fun inner => answers_readOperators path inner field members
  | .null | .bool _ | .integer _ | .float _ | .string _ | .list _ =>
    answers_readField_operand path level field rfl

theorem answers_readOperators (path : Path) (level : Nat) (field : String) :
    (members : List (String × Json)) →
    Answers
      (areFieldEntries members = true ∧ ∀ tree ∈ fieldTrees field members, FitsAt limit level tree)
      (fieldTrees field members)
      ((standard.withLimit limit).readOperators path level field members)
  | [] => by
    rw [readOperators]
    exact .value ⟨rfl, fun _ member => absurd member List.not_mem_nil⟩
  | (key, document) :: rest => by
    rw [readOperators_cons, areFieldEntries, fieldTrees, List.forall_mem_cons, Bool.and_eq_true]
    unfold readOperator
    have tail := answers_readOperators path level field rest
    split
    · exact ((answers_readCondition path level field key document).cons tail).congr and_and_and_comm
    · exact ((answers_readField (path.child key) level (field ++ "." ++ key) document).cons
        tail).congr and_and_and_comm

end

/-- The step of a logical operator on a list. -/
theorem answers_readGroup_list (path : Path) (level : Nat) (key : String) (connective : Connective)
    {items : List Json}
    (elements : Answers
      (areFilters items = true ∧ ∀ tree ∈ treesOf items, FitsAt limit (level + 1) tree)
      (treesOf items) ((standard.withLimit limit).readElements path (level + 1) key 0 items)) :
    Answers
      (isFilterList (.list items) = true ∧ FitsAt limit level (groupTree connective (.list items)))
      (groupTree connective (.list items))
      ((standard.withLimit limit).readGroup path level key connective (.list items)) := by
  rw [readGroup_list, isFilterList, groupTree]
  cases items with
  | nil => exact .of_fault _ _ fun both => Bool.false_ne_true both.1
  | cons item rest =>
    have nonempty := treesOf_ne_nil (List.cons_ne_nil item rest)
    refine ((answers_checkLevel path level).bind fun _ =>
      elements.map (Tree.group connective)).congr ?_
    constructor
    · rintro ⟨_, taken, fitting⟩
      exact ⟨taken, (fitsAt_group nonempty).mpr fitting⟩
    · rintro ⟨taken, fitting⟩
      exact ⟨fitting.level_le, taken, (fitsAt_group nonempty).mp fitting⟩

theorem answers_readGroup_other (path : Path) (level : Nat) (key : String)
    (connective : Connective) {document : Json} (noList : ∀ items, document ≠ .list items) :
    Answers
      (isFilterList document = true ∧ FitsAt limit level (groupTree connective document))
      (groupTree connective document)
      ((standard.withLimit limit).readGroup path level key connective document) := by
  rw [readGroup_other _ _ _ _ _ noList]
  refine .of_fault _ _ fun both => ?_
  cases document with
  | list items => exact noList items rfl
  | _ => cases both.1

theorem answers_readMapping_other (path : Path) (level : Nat) {document : Json}
    (bare : document.isMapping = false) :
    Answers (isFilter document = true ∧ FitsAt limit level (treeOf document)) (treeOf document)
      ((standard.withLimit limit).readMapping path level document) := by
  rw [readMapping_other _ _ _ bare]
  refine .fault _ fun both => ?_
  cases document with
  | mapping members => cases bare
  | _ => cases both.1

mutual

theorem answers_readMapping (path : Path) (level : Nat) : (document : Json) →
    Answers (isFilter document = true ∧ FitsAt limit level (treeOf document)) (treeOf document)
      ((standard.withLimit limit).readMapping path level document)
  | .mapping members => by
    rw [readMapping_mapping, isFilter, treeOf]
    exact answers_mapping path level members (length_entryTrees members)
      fun inner => answers_readEntries path inner members
  | .null | .bool _ | .integer _ | .float _ | .string _ | .list _ =>
    answers_readMapping_other path level rfl

theorem answers_readEntries (path : Path) (level : Nat) : (members : List (String × Json)) →
    Answers (areEntries members = true ∧ ∀ tree ∈ entryTrees members, FitsAt limit level tree)
      (entryTrees members) ((standard.withLimit limit).readEntries path level members)
  | [] => by
    rw [readEntries]
    exact .value ⟨rfl, fun _ member => absurd member List.not_mem_nil⟩
  | (key, document) :: rest => by
    rw [readEntries_cons, areEntries, entryTrees, List.forall_mem_cons, Bool.and_eq_true]
    unfold readEntry
    have tail := answers_readEntries path level rest
    split
    · rw [Bool.and_eq_true]
      exact ((((answers_resolveLogical path key).bind fun _ =>
        answers_readGroup path level key _ document).congr and_assoc.symm).cons tail).congr
        and_and_and_comm
    · exact ((answers_readField (path.child key) level key document).cons tail).congr
        and_and_and_comm

theorem answers_readGroup (path : Path) (level : Nat) (key : String) (connective : Connective) :
    (document : Json) →
    Answers
      (isFilterList document = true ∧ FitsAt limit level (groupTree connective document))
      (groupTree connective document)
      ((standard.withLimit limit).readGroup path level key connective document)
  | .list items =>
    answers_readGroup_list path level key connective
      (answers_readElements path (level + 1) key 0 items)
  | .null | .bool _ | .integer _ | .float _ | .string _ | .mapping _ =>
    answers_readGroup_other path level key connective (by simp)

theorem answers_readElements (path : Path) (level : Nat) (key : String) (index : Nat) :
    (items : List Json) →
    Answers (areFilters items = true ∧ ∀ tree ∈ treesOf items, FitsAt limit level tree)
      (treesOf items) ((standard.withLimit limit).readElements path level key index items)
  | [] => by
    rw [readElements]
    exact .value ⟨rfl, fun _ member => absurd member List.not_mem_nil⟩
  | item :: rest => by
    rw [readElements_cons, areFilters, treesOf, List.forall_mem_cons, Bool.and_eq_true]
    exact ((answers_readMapping (path.child (Path.element key index)) level item).cons
      (answers_readElements path level key (index + 1) rest)).congr and_and_and_comm

end

/-! ### Filters -/

theorem answers_read (limit : Nat) (document : Json) :
    Answers (isFilter document = true ∧ (treeOf document).depth ≤ limit) (treeOf document)
      ((standard.withLimit limit).read document) :=
  (answers_readMapping .root 1 document).congr (and_congr_right fun _ => fitsAt_root)

/-- The reader accepts exactly the grammar: where the limit is not below the height of the tree that
a filter stands for, reading succeeds for the filters and for no other document; and with any
limit, what is read from a document is the tree that it stands for, if that is not too tall. -/
theorem read_iff_isFilter (limit : Nat) (document : Json) :
    ((isFilter document = true → (treeOf document).depth ≤ limit) →
        ((∃ tree, (standard.withLimit limit).read document = .ok tree) ↔
          isFilter document = true)) ∧
      ∀ tree, (standard.withLimit limit).read document = .ok tree ↔
        isFilter document = true ∧ (treeOf document).depth ≤ limit ∧ treeOf document = tree := by
  have reads : ∀ tree, (standard.withLimit limit).read document = .ok tree ↔
      (isFilter document = true ∧ (treeOf document).depth ≤ limit) ∧ treeOf document = tree :=
    fun tree => (answers_read limit document).eq_ok_iff
  refine ⟨fun enough => ⟨?_, ?_⟩, ?_⟩
  · rintro ⟨tree, read⟩
    exact ((reads tree).mp read).1.1
  · intro filter
    exact ⟨_, (reads _).mpr ⟨⟨filter, enough filter⟩, rfl⟩⟩
  · intro tree
    rw [reads, and_assoc]

theorem read_nested_names :
    let document := Json.mapping [("a", .mapping [("@gt", .bool true), ("b", .list [])]),
      ("@nor", .list [.mapping [("c", .mapping [("@exists", .string " TRUE ")])]])]
    (isFilter document = true → (treeOf document).depth ≤ 3) ∧
      (∃ tree, (standard.withLimit 3).read document = .ok tree) ∧
      (standard.withLimit 3).read document = .ok (.group .and
        [.group .and [.leaf "a" (.compare .gt (.bool true)), .leaf "a.b" (.compare .eq (.list []))],
          .group .nor [.leaf "c" (.present true)]]) := by
  intro document
  have enough : isFilter document = true → (treeOf document).depth ≤ 3 := fun _ => by decide
  obtain ⟨accepts, builds⟩ := read_iff_isFilter 3 document
  exact ⟨enough, (accepts enough).mpr (by decide), (builds _).mpr ⟨by decide, by decide, rfl⟩⟩

end Reader

end Sieve.Filter
