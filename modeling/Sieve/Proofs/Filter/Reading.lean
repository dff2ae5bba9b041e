/-
This file restates the reader of filters as chains of steps: each equation says
which step comes first and what the next one makes of its outcome. A proof about
reading follows these chains and never opens the reader itself.

Three readers walk a list, one after another, and give one tree for each member of
it. So a mapping of one entry becomes the tree of this entry, and only a mapping of
several entries becomes a group.
-/

import Sieve.Filter.Reader
import Sieve.Proofs.Outcome

namespace Sieve.Filter

namespace Reader

variable (reader : Reader) (path : Path) (level : Nat)

/-! ### Leaves -/

/-- A value as the operand of a comparison on a field, brought to the kind in the schema. -/
def coerceOperand (field : String) (value : Value) : Except Fault Value :=
  match reader.schema.get? field with
  | none => .ok value
  | some target =>
    (Value.coerceEach target value).mapError fun fault => ⟨.conversion fault, path⟩

theorem comparedOperand_eq (field : String) (document : Json) :
    reader.comparedOperand path field document =
      (operand path document).bind fun value => reader.coerceOperand path field value := by
  unfold comparedOperand
  cases operand path document with
  | error fault => rfl
  | ok value => rfl

theorem operatorOperand_eq (field : String) (category : Category) (document : Json) :
    reader.operatorOperand path field category document =
      (operand path document).bind fun value =>
        if category = .comparison then reader.coerceOperand path field value else .ok value := by
  unfold operatorOperand
  split
  · exact reader.comparedOperand_eq path field document
  · cases operand path document with
    | error fault => rfl
    | ok value => rfl

/-- The condition that an operator makes out of a document. -/
def conditionOf (field key : String) (operator : Operator) (document : Json) :
    Except Fault Condition :=
  match operator.builder with
  | .logical _ => .error (.malformed path (.logicalOnField key))
  | .field operation =>
    (reader.operatorOperand path field operator.category document).bind fun value =>
      (operation.condition value).mapError (OperandFault.atPath path)

theorem readCondition_eq (field key : String) (document : Json) :
    reader.readCondition path level field key document =
      (reader.checkLevel path level).bind fun _ =>
        (reader.resolve path key).bind fun operator =>
          (reader.conditionOf path field key operator document).map (Tree.leaf field) := by
  unfold readCondition
  cases reader.checkLevel path level with
  | error fault => rfl
  | ok _ =>
    cases reader.resolve path key with
    | error fault => rfl
    | ok operator =>
      simp only [Except.bind, conditionOf]
      cases operator.builder with
      | logical connective => rfl
      | field operation =>
        cases reader.operatorOperand path field operator.category document with
        | error fault => rfl
        | ok value =>
          dsimp only
          cases operation.condition value with
          | error fault => rfl
          | ok condition => rfl

theorem readEquality_eq (field : String) (document : Json) :
    reader.readEquality path level field document =
      (reader.checkLevel path level).bind fun _ =>
        (reader.comparedOperand path field document).map fun value =>
          .leaf field (.compare .eq value) := by
  unfold readEquality
  cases reader.checkLevel path level with
  | error fault => rfl
  | ok _ => rfl

/-- A field that has to equal an operand is compared like any other. -/
theorem readEquality_eq_compareWith (field : String) (document : Json) :
    reader.readEquality path level field document =
      (reader.checkLevel path level).bind fun _ =>
        ((reader.comparedOperand path field document).bind fun value =>
          (compareWith .eq value).mapError (OperandFault.atPath path)).map (Tree.leaf field) := by
  rw [readEquality_eq]
  refine congrArg _ (funext fun _ => ?_)
  cases reader.comparedOperand path field document with
  | error fault => rfl
  | ok value => cases value <;> rfl

/-! ### Mappings and lists -/

theorem readField_mapping (field : String) (members : List (String × Json)) :
    reader.readField path level field (.mapping members) =
      (reader.entryLevel path level members).bind fun inner =>
        (reader.readOperators path inner field members).map Tree.conjunction := by
  rw [readField]
  cases reader.entryLevel path level members with
  | error fault => rfl
  | ok inner => rfl

theorem readField_operand (field : String) {document : Json}
    (bare : document.isMapping = false) :
    reader.readField path level field document =
      reader.readEquality path level field document := by
  cases document with
  | mapping members => simp [Json.isMapping] at bare
  | _ => rw [readField]; simp

/-- One entry of a mapping of operators. -/
def readOperator (field key : String) (document : Json) : Except Fault Tree :=
  if isOperatorKey key then reader.readCondition path level field key document
  else reader.readField (path.child key) level (field ++ "." ++ key) document

@[simp]
theorem readOperators_cons (field key : String) (document : Json)
    (rest : List (String × Json)) :
    reader.readOperators path level field ((key, document) :: rest) =
      (reader.readOperator path level field key document).bind fun tree =>
        (reader.readOperators path level field rest).map (tree :: ·) := by
  rw [readOperators, readOperator]
  cases (if isOperatorKey key then reader.readCondition path level field key document
    else reader.readField (path.child key) level (field ++ "." ++ key) document) with
  | error fault => rfl
  | ok tree => rfl

theorem readMapping_mapping (members : List (String × Json)) :
    reader.readMapping path level (.mapping members) =
      (reader.entryLevel path level members).bind fun inner =>
        (reader.readEntries path inner members).map Tree.conjunction := by
  rw [readMapping]
  cases reader.entryLevel path level members with
  | error fault => rfl
  | ok inner => rfl

theorem readMapping_other {document : Json} (bare : document.isMapping = false) :
    reader.readMapping path level document =
      .error (.malformed path (if path.isRoot then .noMapping else .elementIsNoMapping)) := by
  cases document with
  | mapping members => simp [Json.isMapping] at bare
  | _ => rw [readMapping]; simp

/-- One entry of a mapping of fields and logical operators. -/
def readEntry (key : String) (document : Json) : Except Fault Tree :=
  if isOperatorKey key then
    (reader.resolveLogical path key).bind fun connective =>
      reader.readGroup path level key connective document
  else reader.readField (path.child key) level key document

@[simp]
theorem readEntries_cons (key : String) (document : Json) (rest : List (String × Json)) :
    reader.readEntries path level ((key, document) :: rest) =
      (reader.readEntry path level key document).bind fun tree =>
        (reader.readEntries path level rest).map (tree :: ·) := by
  rw [readEntries, readEntry]
  by_cases marked : isOperatorKey key = true
  · rw [if_pos marked, if_pos marked]
    cases reader.resolveLogical path key with
    | error fault => rfl
    | ok connective =>
      simp only [Except.bind]
      cases reader.readGroup path level key connective document with
      | error fault => rfl
      | ok tree => rfl
  · rw [if_neg marked, if_neg marked]
    cases reader.readField (path.child key) level key document with
    | error fault => rfl
    | ok tree => rfl

/-- The trees of the list of a logical operator, which must not be empty. -/
def readConditions (key : String) : List Json → Except Fault (List Tree)
  | [] => .error ⟨.childless key, path⟩
  | item :: rest => reader.readElements path level key 0 (item :: rest)

theorem readGroup_list (key : String) (connective : Connective) (items : List Json) :
    reader.readGroup path level key connective (.list items) =
      (reader.checkLevel path level).bind fun _ =>
        (reader.readConditions path (level + 1) key items).map (Tree.group connective) := by
  rw [readGroup]
  cases reader.checkLevel path level with
  | error fault => rfl
  | ok _ =>
    cases items with
    | nil => rfl
    | cons item rest => rfl

theorem readGroup_other (key : String) (connective : Connective) {document : Json}
    (noList : ∀ items, document ≠ .list items) :
    reader.readGroup path level key connective document =
      (reader.checkLevel path level).bind fun _ => .error (.malformed path (.noList key)) := by
  cases document with
  | list items => exact absurd rfl (noList items)
  | _ =>
    rw [readGroup]
    · cases reader.checkLevel path level with
      | error fault => rfl
      | ok _ => rfl
    · simp

@[simp]
theorem readElements_cons (key : String) (index : Nat) (item : Json) (rest : List Json) :
    reader.readElements path level key index (item :: rest) =
      (reader.readMapping (path.child (Path.element key index)) level item).bind fun tree =>
        (reader.readElements path level key (index + 1) rest).map (tree :: ·) := by
  rw [readElements]
  cases reader.readMapping (path.child (Path.element key index)) level item with
  | error fault => rfl
  | ok tree => rfl

/-! ### Entries of a mapping -/

variable {path level} in
/-- A single entry takes the level of its mapping; several entries are children of a group. -/
theorem entryLevel_cases {members : List (String × Json)} {inner : Nat}
    (outcome : reader.entryLevel path level members = .ok inner) :
    members.length = 1 ∧ inner = level ∨ 1 < members.length ∧ inner = level + 1 := by
  match members with
  | [] => cases outcome
  | [_] =>
    cases outcome
    exact Or.inl ⟨rfl, rfl⟩
  | _ :: _ :: _ =>
    obtain ⟨_, _, rfl⟩ := map_eq_ok_iff.mp outcome
    exact Or.inr ⟨by simp, rfl⟩

/-- A single entry is read as if there were no mapping around it. -/
theorem readField_single (field key : String) (document : Json) :
    reader.readField path level field (.mapping [(key, document)]) =
      reader.readOperator path level field key document := by
  rw [readField_mapping]
  show (reader.readOperators path level field [(key, document)]).map Tree.conjunction = _
  rw [readOperators_cons]
  cases reader.readOperator path level field key document with
  | error fault => rfl
  | ok tree => rfl

theorem readMapping_single (key : String) (document : Json) :
    reader.readMapping path level (.mapping [(key, document)]) =
      reader.readEntry path level key document := by
  rw [readMapping_mapping]
  show (reader.readEntries path level [(key, document)]).map Tree.conjunction = _
  rw [readEntries_cons]
  cases reader.readEntry path level key document with
  | error fault => rfl
  | ok tree => rfl

/-! ### One tree for each member -/

theorem readOperators_eq_mapM (field : String) (members : List (String × Json)) :
    reader.readOperators path level field members =
      members.mapM fun member => reader.readOperator path level field member.1 member.2 := by
  induction members with
  | nil =>
    rw [readOperators]
    rfl
  | cons member rest inductionHypothesis =>
    rw [readOperators_cons, mapM_cons_eq_bind, inductionHypothesis]

theorem readEntries_eq_mapM (members : List (String × Json)) :
    reader.readEntries path level members =
      members.mapM fun member => reader.readEntry path level member.1 member.2 := by
  induction members with
  | nil =>
    rw [readEntries]
    rfl
  | cons member rest inductionHypothesis =>
    rw [readEntries_cons, mapM_cons_eq_bind, inductionHypothesis]

theorem length_readOperators {field : String} {members : List (String × Json)}
    {trees : List Tree} (outcome : reader.readOperators path level field members = .ok trees) :
    trees.length = members.length := by
  rw [readOperators_eq_mapM] at outcome
  exact length_of_mapM outcome

theorem length_readEntries {members : List (String × Json)} {trees : List Tree}
    (outcome : reader.readEntries path level members = .ok trees) :
    trees.length = members.length := by
  rw [readEntries_eq_mapM] at outcome
  exact length_of_mapM outcome

/-- The elements of a list have places of their own, so this walk has a step for each. -/
theorem length_readElements {key : String} {index : Nat} {items : List Json} {trees : List Tree}
    (outcome : reader.readElements path level key index items = .ok trees) :
    trees.length = items.length := by
  induction items generalizing index trees with
  | nil =>
    rw [readElements] at outcome
    cases outcome
    rfl
  | cons item rest inductionHypothesis =>
    rw [readElements_cons, bind_cons_eq_ok_iff] at outcome
    obtain ⟨tree, others, _, read, rfl⟩ := outcome
    rw [List.length_cons, List.length_cons, inductionHypothesis read]

/-! ### Texts -/

/-- The tree of a text is that of the document in it. -/
theorem read_of_readText {reader : Reader} {text : String} {tree : Tree}
    (read : reader.readText text = .ok tree) :
    ∃ document, Json.read text = .ok document ∧ reader.read document = .ok tree := by
  unfold readText at read
  split at read
  · cases read
  · split at read
    · cases read
    · rename_i document found
      exact ⟨document, found, read⟩

/-- The same reader with another schema. -/
def withSchema (schema : Schema) (reader : Reader) : Reader :=
  { reader with schema := schema }

end Reader

end Sieve.Filter
