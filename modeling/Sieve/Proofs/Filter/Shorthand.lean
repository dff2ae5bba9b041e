/-
Filters may be written shortly: several entries in one mapping, an operand without its
operator, the name of a field in several steps. Writing out a filter replaces each of these
forms by the one that it is short for, and this file proves that nothing depends on the form.
Both ways a filter is read as the same tree, or refused for the same reason; only the place
that a fault names may be another one.

The two readings go along with each other level by level. An implicit group and the explicit
one that it is written out to are counted on the same level, and both before any of their
entries is read, so with several faults in a filter the same one is met first.
-/

import Mathlib.Data.List.Forall2
import Sieve.Proofs.Filter.Grammar

namespace Sieve.Filter

/-! ### Writing out -/

/-- Several filters under an explicit operator; a single one stays as it is, and with none, the
document stays as it was. -/
def explicitly (document : Json) : List Json → Json
  | [] => document
  | [filter] => filter
  | filters => .mapping [("@and", .list filters)]

mutual

/-- The filter that asks one field for a value, written out: an operand gets its operator, a further
name goes to the name of the field, and several entries become filters of their own. -/
def expandField (field : String) : Json → Json
  | .mapping members =>
    explicitly (.mapping [(field, .mapping [])]) (expandFieldEntries field members)
  | document => .mapping [(field, .mapping [("@eq", document)])]

def expandFieldEntries (field : String) : List (String × Json) → List Json
  | [] => []
  | (key, document) :: rest =>
    (if isOperatorKey key then .mapping [(field, .mapping [(key, document)])]
      else expandField (field ++ "." ++ key) document) :: expandFieldEntries field rest

end

mutual

/-- A filter written out; what is no filter stays as it is. -/
def expand : Json → Json
  | .mapping members => explicitly (.mapping []) (expandEntries members)
  | document => document

def expandEntries : List (String × Json) → List Json
  | [] => []
  | (key, document) :: rest =>
    (if isOperatorKey key then expandGroup key document else expandField key document) ::
      expandEntries rest

/-- A logical operator with the filters of its list written out; no other operator is touched. -/
def expandGroup (key : String) : Json → Json
  | .list items =>
    .mapping [(key, .list (if (connective? key).isSome then expandItems items else items))]
  | document => .mapping [(key, document)]

def expandItems : List Json → List Json
  | [] => []
  | item :: rest => expand item :: expandItems rest

end

example : expand (.mapping [("a", .mapping [("@gt", .bool true), ("b", .string "x")]),
      ("@or", .list [.mapping [("c", .null)]])]) =
    .mapping [("@and", .list [
      .mapping [("@and", .list [.mapping [("a", .mapping [("@gt", .bool true)])],
        .mapping [("a.b", .mapping [("@eq", .string "x")])]])],
      .mapping [("@or", .list [.mapping [("c", .mapping [("@eq", .null)])]])]])] := by rfl

theorem isOperatorKey_dotted {field : String} (key : String)
    (named : isOperatorKey field = false) : isOperatorKey (field ++ "." ++ key) = false := by
  unfold isOperatorKey at named ⊢
  rw [String.toList_append, String.toList_append]
  cases shape : field.toList with
  | nil => rfl
  | cons first rest =>
    rw [shape] at named
    exact named

/-! ### Outcomes that differ in places -/

/-- The same value, or two faults with one problem, wherever they were met. -/
inductive Alike {α : Type} : Except Fault α → Except Fault α → Prop where
  | value (value : α) : Alike (.ok value) (.ok value)
  | fault {first second : Fault} (same : second.problem = first.problem) :
    Alike (.error first) (.error second)

namespace Alike

variable {α β : Type} {first second : Except Fault α}

theorem map (function : α → β) (alike : Alike first second) :
    Alike (first.map function) (second.map function) := by
  cases alike with
  | value value => exact .value (function value)
  | fault same => exact .fault same

theorem bind {firstNext secondNext : α → Except Fault β} (alike : Alike first second)
    (next : ∀ value, first = .ok value → Alike (firstNext value) (secondNext value)) :
    Alike (first.bind firstNext) (second.bind secondNext) := by
  cases alike with
  | value value => exact next value rfl
  | fault same => exact .fault same

theorem cons {firstRest secondRest : Except Fault (List α)} (head : Alike first second)
    (tail : Alike firstRest secondRest) :
    Alike (first.bind fun value => firstRest.map (value :: ·))
      (second.bind fun value => secondRest.map (value :: ·)) :=
  head.bind fun value _ => tail.map (value :: ·)

end Alike

namespace Reader

variable (reader : Reader)

/-! ### Leaves in other places -/

theorem alike_checkLevel (path other : Path) (level : Nat) :
    Alike (reader.checkLevel path level) (reader.checkLevel other level) := by
  unfold checkLevel
  split
  · exact .value ()
  · exact .fault rfl

theorem alike_operand (path other : Path) (document : Json) :
    Alike (operand path document) (operand other document) := by
  unfold operand
  cases Value.ofJson document with
  | error rejection => exact .fault rfl
  | ok value => exact .value value

theorem alike_comparedOperand (path other : Path) (field : String) (document : Json) :
    Alike (reader.comparedOperand path field document)
      (reader.comparedOperand other field document) := by
  rw [comparedOperand_eq, comparedOperand_eq]
  refine (alike_operand path other document).bind fun value _ => ?_
  unfold coerceOperand
  cases reader.schema.get? field with
  | none => exact .value value
  | some target =>
    dsimp only
    cases Value.coerceEach target value with
    | error fault => exact .fault rfl
    | ok coerced => exact .value coerced

theorem alike_conditionOf (path other : Path) (field key : String) (operator : Operator)
    (document : Json) :
    Alike (reader.conditionOf path field key operator document)
      (reader.conditionOf other field key operator document) := by
  unfold conditionOf
  cases operator.builder with
  | logical connective => exact .fault rfl
  | field operation =>
    have operands : Alike (reader.operatorOperand path field operator.category document)
        (reader.operatorOperand other field operator.category document) := by
      unfold operatorOperand
      split
      · exact reader.alike_comparedOperand path other field document
      · exact alike_operand path other document
    refine operands.bind fun value _ => ?_
    cases operation.condition value with
    | error fault => cases fault <;> exact .fault rfl
    | ok condition => exact .value condition

theorem alike_resolve (path other : Path) (key : String) :
    Alike (reader.resolve path key) (reader.resolve other key) := by
  unfold resolve
  cases reader.registry.resolve? key with
  | none => exact .fault rfl
  | some operator => exact .value operator

theorem alike_readCondition (path other : Path) (level : Nat) (field key : String)
    (document : Json) :
    Alike (reader.readCondition path level field key document)
      (reader.readCondition other level field key document) := by
  rw [readCondition_eq, readCondition_eq]
  refine (reader.alike_checkLevel path other level).bind fun _ _ => ?_
  refine (reader.alike_resolve path other key).bind fun operator _ => ?_
  exact (reader.alike_conditionOf path other field key operator document).map _

/-! ### Walks along lists -/

/-- Several trees are joined, whatever they are. -/
theorem map_conjunction_mapM {α : Type} (step : α → Except Fault Tree) (first second : α)
    (rest : List α) :
    ((first :: second :: rest).mapM step).map Tree.conjunction =
      ((first :: second :: rest).mapM step).map (Tree.group .and) := by
  cases read : (first :: second :: rest).mapM step with
  | error fault => rfl
  | ok trees =>
    have length := length_of_mapM read
    match trees with
    | [] => cases length
    | [_] => cases length
    | _ :: _ :: _ => rfl

variable {reader}

theorem alike_mapM {α : Type} {step : α → Except Fault Tree} {members : List α}
    {filters : List Json} {level : Nat}
    (each : List.Forall₂ (fun member filter => ∀ place,
      Alike (step member) (reader.readMapping place level filter)) members filters)
    (place : Path) (key : String) (index : Nat) :
    Alike (members.mapM step) (reader.readElements place level key index filters) := by
  induction each generalizing index with
  | nil =>
    rw [readElements]
    exact .value []
  | cons head _ inductionHypothesis =>
    rw [mapM_cons_eq_bind, readElements_cons]
    exact (head _).cons (inductionHypothesis (index + 1))

/-! ### Explicit groups -/

theorem readMapping_and (standard : reader.registry = .standard) (path : Path) (level : Nat)
    (first : Json) (rest : List Json) :
    reader.readMapping path level (.mapping [("@and", .list (first :: rest))]) =
      (reader.checkLevel path level).bind fun _ =>
        (reader.readElements path (level + 1) "@and" 0 (first :: rest)).map (Tree.group .and) := by
  have resolved : reader.resolveLogical path "@and" = .ok .and := by
    unfold resolveLogical resolve
    rw [standard]
    rfl
  rw [readMapping_single, readEntry, if_pos (by decide), resolved]
  show reader.readGroup path level "@and" .and (.list (first :: rest)) = _
  rw [readGroup_list]
  rfl

/-- A mapping is read as its entries are when each is a filter of its own and they are joined
explicitly. -/
theorem alike_explicitly (standard : reader.registry = .standard) (path other : Path) (level : Nat)
    {members : List (String × Json)} {filters : List Json} {document : Json}
    {step : Nat → String × Json → Except Fault Tree}
    (each : ∀ level, List.Forall₂ (fun member filter => ∀ place,
      Alike (step level member) (reader.readMapping place level filter)) members filters)
    (empty : ∃ place, reader.readMapping other level document =
      .error (.malformed place .emptyMapping)) :
    Alike
      ((reader.entryLevel path level members).bind fun inner =>
        (members.mapM (step inner)).map Tree.conjunction)
      (reader.readMapping other level (explicitly document filters)) := by
  match members, filters, each level, each (level + 1) with
  | [], [], .nil, _ =>
    obtain ⟨place, refused⟩ := empty
    rw [explicitly, refused]
    exact .fault rfl
  | [member], [filter], .cons head .nil, _ =>
    have single : ([member].mapM (step level)).map Tree.conjunction = step level member := by
      rw [mapM_cons_eq_bind]
      cases step level member with
      | error fault => rfl
      | ok tree => rfl
    show Alike (([member].mapM (step level)).map Tree.conjunction) _
    rw [single]
    exact head other
  | first :: second :: rest, firstFilter :: secondFilter :: filters, _, several =>
    have entered : ((reader.entryLevel path level (first :: second :: rest)).bind fun inner =>
          ((first :: second :: rest).mapM (step inner)).map Tree.conjunction) =
        (reader.checkLevel path level).bind fun _ =>
          ((first :: second :: rest).mapM (step (level + 1))).map (Tree.group .and) := by
      rw [← map_conjunction_mapM (step (level + 1)) first second rest]
      unfold entryLevel
      cases reader.checkLevel path level with
      | error fault => rfl
      | ok _ => rfl
    have written : explicitly document (firstFilter :: secondFilter :: filters) =
        .mapping [("@and", .list (firstFilter :: secondFilter :: filters))] := rfl
    rw [entered, written, readMapping_and standard]
    refine (reader.alike_checkLevel path other level).bind fun _ _ => ?_
    exact (alike_mapM several other "@and" 0).map (Tree.group .and)

/-! ### Fields written out -/

/-- An operator on a field, as a filter of its own. -/
theorem readMapping_operator (path : Path) (level : Nat) {field key : String}
    (named : isOperatorKey field = false) (marked : isOperatorKey key = true) (document : Json) :
    reader.readMapping path level (.mapping [(field, .mapping [(key, document)])]) =
      reader.readCondition (path.child field) level field key document := by
  rw [readMapping_single, readEntry, if_neg (Bool.eq_false_iff.mp named), readField_single,
    readOperator, if_pos marked]

theorem readMapping_empty_field (path : Path) (level : Nat) {field : String}
    (named : isOperatorKey field = false) :
    reader.readMapping path level (.mapping [(field, .mapping [])]) =
      .error (.malformed (path.child field) .emptyMapping) := by
  rw [readMapping_single, readEntry, if_neg (Bool.eq_false_iff.mp named), readField_mapping]
  rfl

/-- An operand that a field has to equal is the operand of the operator for that. -/
theorem alike_equality (standard : reader.registry = .standard) (path other : Path) (level : Nat)
    {field : String} (named : isOperatorKey field = false) {document : Json}
    (bare : document.isMapping = false) :
    Alike (reader.readField path level field document)
      (reader.readMapping other level (.mapping [(field, .mapping [("@eq", document)])])) := by
  have condition : reader.readCondition path level field "@eq" document =
      reader.readEquality path level field document := by
    have resolved : reader.resolve path "@eq" =
        .ok ⟨"@eq", .comparison, .field (.compare .eq), by decide, rfl⟩ := by
      unfold resolve
      rw [standard]
      rfl
    rw [readCondition_eq, readEquality_eq_compareWith, resolved]
    rfl
  rw [readField_operand _ _ _ _ bare, readMapping_operator other level named (by decide),
    ← condition]
  exact reader.alike_readCondition path (other.child field) level field "@eq" document

mutual

theorem alike_expandField (standard : reader.registry = .standard) (field : String)
    (named : isOperatorKey field = false) : (document : Json) → (path other : Path) →
    (level : Nat) → Alike (reader.readField path level field document)
      (reader.readMapping other level (expandField field document))
  | .mapping members, path, other, level => by
    have same : (fun inner =>
          (reader.readOperators path inner field members).map Tree.conjunction) =
        fun inner => (members.mapM fun member =>
          reader.readOperator path inner field member.1 member.2).map Tree.conjunction :=
      funext fun inner => by rw [readOperators_eq_mapM]
    rw [readField_mapping, expandField, same]
    exact alike_explicitly standard path other level
      (fun level => (alike_expandFieldEntries standard field named members).imp
        fun _ _ alike place => alike path place level)
      ⟨_, readMapping_empty_field other level named⟩
  | .null, path, other, level | .bool _, path, other, level | .integer _, path, other, level
  | .float _, path, other, level | .string _, path, other, level | .list _, path, other, level =>
    alike_equality standard path other level named rfl

theorem alike_expandFieldEntries (standard : reader.registry = .standard) (field : String)
    (named : isOperatorKey field = false) : (members : List (String × Json)) →
    List.Forall₂ (fun member filter => ∀ path other level,
      Alike (reader.readOperator path level field member.1 member.2)
        (reader.readMapping other level filter)) members (expandFieldEntries field members)
  | [] => .nil
  | (key, document) :: rest => by
    refine .cons (fun path other level => ?_) (alike_expandFieldEntries standard field named rest)
    unfold readOperator
    split
    · rename_i marked
      rw [readMapping_operator other level named marked]
      exact reader.alike_readCondition path (other.child field) level field key document
    · exact alike_expandField standard (field ++ "." ++ key) (isOperatorKey_dotted key named)
        document (path.child key) other level

end

/-! ### Filters written out -/

theorem isRoot_child (path : Path) (segment : String) : (path.child segment).isRoot = false := by
  simp [Path.child, Path.isRoot]

theorem alike_readMapping_other {path other : Path} (same : path.isRoot = other.isRoot)
    (level : Nat) {document : Json} (bare : document.isMapping = false) :
    Alike (reader.readMapping path level document) (reader.readMapping other level document) := by
  rw [readMapping_other _ _ _ bare, readMapping_other _ _ _ bare, same]
  exact .fault rfl

theorem alike_readGroup_other (path other : Path) (level : Nat) (key : String)
    (connective : Connective) {document : Json} (noList : ∀ items, document ≠ .list items) :
    Alike (reader.readGroup path level key connective document)
      (reader.readGroup other level key connective document) := by
  rw [readGroup_other _ _ _ _ _ noList, readGroup_other _ _ _ _ _ noList]
  exact (reader.alike_checkLevel path other level).bind fun _ _ => .fault rfl

theorem alike_readElements {items filters : List Json} {level : Nat}
    (each : List.Forall₂ (fun item filter => ∀ path other : Path, path.isRoot = other.isRoot →
      Alike (reader.readMapping path level item) (reader.readMapping other level filter))
      items filters) (path other : Path) (key : String) (index : Nat) :
    Alike (reader.readElements path level key index items)
      (reader.readElements other level key index filters) := by
  induction each generalizing index with
  | nil =>
    rw [readElements, readElements]
    exact .value []
  | cons head _ inductionHypothesis =>
    rw [readElements_cons, readElements_cons]
    refine (head _ _ ?_).cons (inductionHypothesis (index + 1))
    rw [isRoot_child, isRoot_child]

theorem alike_readGroup_list {items filters : List Json} {level : Nat}
    (each : List.Forall₂ (fun item filter => ∀ path other : Path, path.isRoot = other.isRoot →
      Alike (reader.readMapping path (level + 1) item)
        (reader.readMapping other (level + 1) filter)) items filters)
    (path other : Path) (key : String) (connective : Connective) :
    Alike (reader.readGroup path level key connective (.list items))
      (reader.readGroup other level key connective (.list filters)) := by
  rw [readGroup_list, readGroup_list]
  refine (reader.alike_checkLevel path other level).bind fun _ _ => ?_
  cases each with
  | nil => exact .fault rfl
  | cons head tail =>
    exact (alike_readElements (.cons head tail) path other key 0).map (Tree.group connective)

theorem alike_resolveLogical (path other : Path) (key : String) :
    Alike (reader.resolveLogical path key) (reader.resolveLogical other key) := by
  unfold resolveLogical resolve
  cases reader.registry.resolve? key with
  | none => exact .fault rfl
  | some operator =>
    dsimp only
    cases operator.builder with
    | logical connective => exact .value connective
    | field operation => exact .fault rfl

/-- Of a key that names no logical operator nothing is read. -/
theorem resolveLogical_ne_ok (standard : reader.registry = .standard) (path : Path) {key : String}
    (unknown : connective? key = none) (connective : Connective) :
    reader.resolveLogical path key ≠ .ok connective := by
  intro resolved
  have same : (Reader.standard.withLimit 0).resolveLogical path key =
      reader.resolveLogical path key := by
    unfold resolveLogical resolve
    rw [standard]
    rfl
  have named := ((answers_resolveLogical path key).eq_ok_iff.mp (same.trans resolved)).1
  rw [unknown] at named
  cases named

/-- An operator at the root, or in a list, with what it has for its list. -/
theorem alike_group (standard : reader.registry = .standard) (path other : Path) (level : Nat)
    {key : String} (marked : isOperatorKey key = true) {document written : Json}
    (alike : ∀ connective, connective? key ≠ none →
      Alike (reader.readGroup path level key connective document)
        (reader.readGroup other level key connective written)) :
    Alike (reader.readEntry path level key document)
      (reader.readMapping other level (.mapping [(key, written)])) := by
  rw [readMapping_single, readEntry, readEntry, if_pos marked, if_pos marked]
  refine (alike_resolveLogical path other key).bind fun connective resolved => ?_
  exact alike connective fun unknown =>
    resolveLogical_ne_ok standard path unknown connective resolved

mutual

theorem alike_expand (standard : reader.registry = .standard) : (document : Json) →
    (path other : Path) → path.isRoot = other.isRoot → (level : Nat) →
    Alike (reader.readMapping path level document) (reader.readMapping other level (expand document))
  | .mapping members, path, other, _, level => by
    have same : (fun inner => (reader.readEntries path inner members).map Tree.conjunction) =
        fun inner => (members.mapM fun member =>
          reader.readEntry path inner member.1 member.2).map Tree.conjunction :=
      funext fun inner => by rw [readEntries_eq_mapM]
    rw [readMapping_mapping, expand, same]
    refine alike_explicitly standard path other level
      (fun level => (alike_expandEntries standard members).imp
        fun _ _ alike place => alike path place level) ⟨other, ?_⟩
    rw [readMapping_mapping]
    rfl
  | .null, _, _, same, level | .bool _, _, _, same, level | .integer _, _, _, same, level
  | .float _, _, _, same, level | .string _, _, _, same, level | .list _, _, _, same, level =>
    alike_readMapping_other same level rfl

theorem alike_expandEntries (standard : reader.registry = .standard) :
    (members : List (String × Json)) →
    List.Forall₂ (fun member filter => ∀ path other level,
      Alike (reader.readEntry path level member.1 member.2)
        (reader.readMapping other level filter)) members (expandEntries members)
  | [] => .nil
  | (key, document) :: rest => by
    refine .cons (fun path other level => ?_) (alike_expandEntries standard rest)
    split
    · rename_i marked
      exact alike_expandGroup standard marked document path other level
    · rename_i named
      show Alike (reader.readEntry path level key document) _
      rw [readEntry, if_neg named]
      exact alike_expandField standard key (Bool.eq_false_iff.mpr named) document
        (path.child key) other level

theorem alike_expandGroup (standard : reader.registry = .standard) {key : String}
    (marked : isOperatorKey key = true) : (document : Json) → (path other : Path) →
    (level : Nat) → Alike (reader.readEntry path level key document)
      (reader.readMapping other level (expandGroup key document))
  | .list items, path, other, level => by
    refine alike_group standard path other level marked fun connective known => ?_
    rw [if_pos (Option.isSome_iff_ne_none.mpr known)]
    exact alike_readGroup_list ((alike_expandItems standard items).imp
      fun _ _ alike path other same => alike path other same (level + 1)) path other key connective
  | .null, path, other, level | .bool _, path, other, level | .integer _, path, other, level
  | .float _, path, other, level | .string _, path, other, level | .mapping _, path, other, level =>
    alike_group standard path other level marked fun connective _ =>
      alike_readGroup_other path other level key connective (by simp)

theorem alike_expandItems (standard : reader.registry = .standard) : (items : List Json) →
    List.Forall₂ (fun item filter => ∀ path other : Path, path.isRoot = other.isRoot →
      ∀ level, Alike (reader.readMapping path level item)
        (reader.readMapping other level filter)) items (expandItems items)
  | [] => .nil
  | item :: rest =>
    .cons (fun path other same level => alike_expand standard item path other same level)
      (alike_expandItems standard rest)

end

/-- A filter and the same filter written out are read alike, with every limit and every schema:
either both are the same tree, or both are refused for the same problem, and so with the same
code. -/
theorem read_expand (limit : Nat) (schema : Schema) (document : Json) :
    (∃ tree,
      ((Reader.standard.withLimit limit).withSchema schema).read document = .ok tree ∧
      ((Reader.standard.withLimit limit).withSchema schema).read (expand document) = .ok tree) ∨
    ∃ fault other,
      ((Reader.standard.withLimit limit).withSchema schema).read document = .error fault ∧
      ((Reader.standard.withLimit limit).withSchema schema).read (expand document) =
        .error other ∧
      other.problem = fault.problem ∧ other.code = fault.code := by
  have alike : Alike (((Reader.standard.withLimit limit).withSchema schema).read document)
      (((Reader.standard.withLimit limit).withSchema schema).read (expand document)) :=
    alike_expand rfl document .root .root rfl 1
  revert alike
  generalize ((Reader.standard.withLimit limit).withSchema schema).read document = first
  generalize ((Reader.standard.withLimit limit).withSchema schema).read (expand document) = second
  rintro (tree | same)
  · exact Or.inl ⟨tree, rfl, rfl⟩
  · exact Or.inr ⟨_, _, rfl, rfl, same, congrArg Problem.code same⟩

end Reader

end Sieve.Filter
