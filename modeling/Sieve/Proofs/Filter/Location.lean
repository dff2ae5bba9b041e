/-
Where faults point. The path of a fault is a way through the document. A step that starts with
the sign of operators leads to a condition in the list of a logical operator, any other step
to the value under a key. Whatever operators, limit and schema a filter is read with, the path
of its fault can be walked to the end, and what stands there shows the problem. In a document
that has no key twice the path leads to one place only.

A reader puts the path together by hand while it goes down; some faults get the path of the
mapping they are met in, others that of one of its values. So what is shown of each part is
where its faults lie: at a place that the part leads to, behind the path that the reader has
so far. A part that is read for a larger one takes one step more.
-/

import Sieve.Proofs.Filter.Reading
import Sieve.Proofs.Value.Kind
import Mathlib.Data.List.Nodup

namespace Sieve

namespace Json

/-- A document is a mapping that has a value under a key. -/
inductive Entry (key : String) (value : Json) : Json → Prop where
  | intro {members : List (String × Json)} (member : (key, value) ∈ members) :
      Entry key value (.mapping members)

mutual

/-- Whether no mapping in a document has a key twice. -/
def hasDistinctKeys : Json → Bool
  | .list items => haveDistinctKeys items
  | .mapping members => decide (Table.keys members).Nodup && valuesHaveDistinctKeys members
  | _ => true

def haveDistinctKeys : List Json → Bool
  | [] => true
  | item :: rest => hasDistinctKeys item && haveDistinctKeys rest

def valuesHaveDistinctKeys : List (String × Json) → Bool
  | [] => true
  | (_, value) :: rest => hasDistinctKeys value && valuesHaveDistinctKeys rest

end

theorem hasDistinctKeys_of_mem {items : List Json} (distinct : haveDistinctKeys items = true)
    {item : Json} (member : item ∈ items) : item.hasDistinctKeys = true := by
  induction items with
  | nil => cases member
  | cons head rest inductionHypothesis =>
    rw [haveDistinctKeys, Bool.and_eq_true] at distinct
    rcases List.mem_cons.mp member with rfl | tail
    · exact distinct.1
    · exact inductionHypothesis distinct.2 tail

theorem hasDistinctKeys_of_member {members : List (String × Json)}
    (distinct : valuesHaveDistinctKeys members = true) {key : String} {value : Json}
    (member : (key, value) ∈ members) : value.hasDistinctKeys = true := by
  induction members with
  | nil => cases member
  | cons head rest inductionHypothesis =>
    rw [valuesHaveDistinctKeys, Bool.and_eq_true] at distinct
    rcases List.mem_cons.mp member with rfl | tail
    · exact distinct.1
    · exact inductionHypothesis distinct.2 tail

namespace Entry

variable {key : String} {value other document : Json}

theorem hasDistinctKeys (entry : Entry key value document)
    (distinct : document.hasDistinctKeys = true) : value.hasDistinctKeys = true := by
  obtain ⟨member⟩ := entry
  rw [Json.hasDistinctKeys, Bool.and_eq_true] at distinct
  exact hasDistinctKeys_of_member distinct.2 member

theorem unique (entry : Entry key value document) (again : Entry key other document)
    (distinct : document.hasDistinctKeys = true) : value = other := by
  obtain ⟨member⟩ := entry
  obtain ⟨otherMember⟩ := again
  rw [Json.hasDistinctKeys, Bool.and_eq_true, decide_eq_true_iff] at distinct
  exact congrArg Prod.snd (List.inj_on_of_nodup_map distinct.1 member otherMember rfl)

end Entry

end Json

namespace Filter

/-! ### Ways through a document -/

/-- One step: to the value under a key, or to a condition in the list under an operator. -/
inductive Step : Json → String → Json → Prop where
  | value {document value : Json} {key : String} (plain : isOperatorKey key = false)
      (entry : Json.Entry key value document) : Step document key value
  | element {document item : Json} {items : List Json} {key : String} {index : Nat}
      (marked : isOperatorKey key = true) (entry : Json.Entry key (.list items) document)
      (found : items[index]? = some item) : Step document (Path.element key index) item

/-- The steps lead from a document to a place in it. -/
inductive Leads : Json → List String → Json → Prop where
  | here (place : Json) : Leads place [] place
  | step {document next place : Json} {segment : String} {segments : List String}
      (first : Step document segment next) (rest : Leads next segments place) :
      Leads document (segment :: segments) place

theorem toList_element (key : String) (index : Nat) :
    (Path.element key index).toList = key.toList ++ '[' :: (Nat.toDigits 10 index ++ [']']) := by
  show (key ++ "[" ++ index.repr ++ "]").toList = _
  simp [String.toList_append, Nat.toList_repr]

theorem isOperatorKey_element {key : String} (marked : isOperatorKey key = true) (index : Nat) :
    isOperatorKey (Path.element key index) = true := by
  unfold isOperatorKey at marked ⊢
  rw [decide_eq_true_iff] at marked ⊢
  rw [toList_element, List.head?_append_of_ne_nil _ fun empty => by simp [empty] at marked]
  exact marked

theorem not_bracket_mem_digits (index : Nat) : '[' ∉ ']' :: (Nat.toDigits 10 index).reverse := by
  rw [List.mem_cons, List.mem_reverse]
  rintro (same | digit)
  · exact absurd same (by decide)
  · exact absurd (Nat.isDigit_of_mem_toDigits (by decide) (by decide) digit) (by decide)

/-- The number of a position holds no bracket, so the last bracket tells where the key ends. -/
theorem element_injective {key otherKey : String} {index otherIndex : Nat}
    (same : Path.element key index = Path.element otherKey otherIndex) :
    key = otherKey ∧ index = otherIndex := by
  have reversed := congrArg (fun segment => segment.toList.reverse) same
  simp only [toList_element, List.reverse_append, List.reverse_cons, List.append_assoc,
    List.reverse_nil, List.nil_append, List.singleton_append] at reversed
  have positions := congrArg (List.idxOf '[') reversed
  rw [List.idxOf_append_of_notMem (not_bracket_mem_digits index), List.idxOf_cons_self,
    List.idxOf_append_of_notMem (not_bracket_mem_digits otherIndex),
    List.idxOf_cons_self] at positions
  obtain ⟨digits, keys⟩ := List.append_inj reversed positions
  refine ⟨String.toList_inj.mp (List.reverse_injective (List.cons.inj keys).2), ?_⟩
  have read := congrArg (Nat.ofDigitChars 10 · 0) (List.reverse_injective (List.cons.inj digits).2)
  simpa only [Nat.ofDigitChars_toDigits (by decide : 1 < 10) (by decide : 10 ≤ 10)] using read

namespace Step

variable {document next other : Json} {segment : String}

theorem hasDistinctKeys (step : Step document segment next)
    (distinct : document.hasDistinctKeys = true) : next.hasDistinctKeys = true := by
  cases step with
  | value _ entry => exact entry.hasDistinctKeys distinct
  | element _ entry found =>
    exact Json.hasDistinctKeys_of_mem (entry.hasDistinctKeys distinct) (List.mem_of_getElem? found)

/-- No segment is both a key without the sign and a position under an operator. -/
theorem unique (step : Step document segment next) (again : Step document segment other)
    (distinct : document.hasDistinctKeys = true) : next = other := by
  generalize same : segment = otherSegment at again
  cases step with
  | value plain entry =>
    cases again with
    | value _ otherEntry =>
      subst same
      exact entry.unique otherEntry distinct
    | element marked _ _ =>
      rw [same, isOperatorKey_element marked] at plain
      cases plain
  | element marked entry found =>
    cases again with
    | value plain _ =>
      rw [← same, isOperatorKey_element marked] at plain
      cases plain
    | element _ otherEntry otherFound =>
      obtain ⟨rfl, rfl⟩ := element_injective same
      cases entry.unique otherEntry distinct
      exact Option.some.inj (found.symm.trans otherFound)

end Step

theorem Leads.unique {document place other : Json} {segments : List String}
    (leads : Leads document segments place) (again : Leads document segments other)
    (distinct : document.hasDistinctKeys = true) : place = other := by
  induction leads with
  | here place =>
    cases again
    rfl
  | step first rest inductionHypothesis =>
    cases again with
    | step otherFirst otherRest =>
      cases first.unique otherFirst distinct
      exact inductionHypothesis otherRest (first.hasDistinctKeys distinct)

/-! ### Names of fields -/

/-- The name of a field after one more step; a condition of a list starts anew. -/
def Path.extend (name : Option String) (segment : String) : Option String :=
  if isOperatorKey segment then none
  else
    match name with
    | none => some segment
    | some name => some (name ++ "." ++ segment)

/-- The field that a path leads to: the steps since the last condition of a list, with points
between. -/
def Path.field? (path : Path) : Option String :=
  path.segments.foldl Path.extend none

@[simp]
theorem Path.field?_child (path : Path) (segment : String) :
    (path.child segment).field? = Path.extend path.field? segment := by
  unfold Path.field? Path.child
  rw [List.foldl_append]
  rfl

theorem Path.field?_child_element (path : Path) {key : String} (marked : isOperatorKey key = true)
    (index : Nat) : (path.child (Path.element key index)).field? = none := by
  rw [Path.field?_child]
  exact if_pos (isOperatorKey_element marked index)

namespace Reader

/-! ### What shows a problem -/

/-- A key names an operator that is built in a way. -/
def Names (reader : Reader) (key : String) (builder : Builder) : Prop :=
  ∃ operator, reader.registry.resolve? key = some operator ∧ operator.builder = builder

/-- An operand cannot be brought to the kind that the schema has for a field. -/
def Unfit (reader : Reader) (field : String) (operand : Json) (fault : Value.ConversionFault) :
    Prop :=
  ∃ value target, Value.ofJson operand = .ok value ∧ reader.schema.get? field = some target ∧
    Value.coerceEach target value = .error fault

/-- An operator on a field cannot use an operand: either a comparison does not get the kind that the
schema asks for, or the operator itself refuses the value that it is given. -/
inductive Unusable (reader : Reader) (path : Path) (field : String) (operator : Operator)
    (operand : Json) (fault : Value.ConversionFault) : Prop where
  | schema (comparison : operator.category = .comparison)
      (unfit : reader.Unfit field operand fault)
  | operation {operation : Operation} {value : Value} (built : operator.builder = .field operation)
      (given : reader.operatorOperand path field operator.category operand = .ok value)
      (refused : operation.condition value = .error (.conversion fault))

/-- Why a place has not the shape that is wanted there. -/
def Misshapes (reader : Reader) (place : Json) : Malformation → Prop
  | .tooLong | .noDocument _ => False
  | .noMapping | .elementIsNoMapping => place.isMapping = false
  | .emptyMapping => place = .mapping []
  | .noList key => ∃ value connective, Json.Entry key value place ∧
      reader.Names key (.logical connective) ∧ ∀ items, value ≠ .list items
  | .operatorWithoutField key => ∃ value operation, Json.Entry key value place ∧
      reader.Names key (.field operation)
  | .logicalOnField key => ∃ value connective, Json.Entry key value place ∧
      reader.Names key (.logical connective)
  | .rejected rejection =>
      place.isMapping = false ∧ Value.ofJson place = .error rejection ∨
        ∃ key value operation, Json.Entry key value place ∧ reader.Names key (.field operation) ∧
          Value.ofJson value = .error rejection
  | .operand misfit => misfit = .listInRange ∧
      ∃ key value comparison, Json.Entry key value place ∧
        reader.Names key (.field (.compare comparison)) ∧ comparison.isRange = true

/-- What can be seen of a problem at the place that the path of its fault leads to. -/
def Explains (reader : Reader) (path : Path) (place : Json) : Problem → Prop
  | .unknownOperator key => isOperatorKey key = true ∧ reader.registry.resolve? key = none ∧
      ∃ value, Json.Entry key value place
  | .childless key => Json.Entry key (.list []) place ∧
      ∃ connective, reader.Names key (.logical connective)
  | .tooDeep limit => limit = reader.limit
  | .malformed malformation => reader.Misshapes place malformation
  | .conversion fault => ∃ field, path.field? = some field ∧
      (place.isMapping = false ∧ reader.Unfit field place fault ∨
        ∃ key operand operator, Json.Entry key operand place ∧ isOperatorKey key = true ∧
          reader.registry.resolve? key = some operator ∧
          reader.Unusable path field operator operand fault)

/-- A fault lies in a part of a document that is read at a path: its path goes on to a place in this
part, and the place shows the problem. -/
def LiesIn (reader : Reader) (path : Path) (part : Json) (fault : Fault) : Prop :=
  ∃ steps place, fault.path.segments = path.segments ++ steps ∧ Leads part steps place ∧
    reader.Explains fault.path place fault.problem

variable {reader : Reader} {path : Path} {part : Json} {fault : Fault}

theorem LiesIn.here {problem : Problem} (explains : reader.Explains path part problem) :
    reader.LiesIn path part ⟨problem, path⟩ :=
  ⟨[], part, (List.append_nil _).symm, .here part, explains⟩

theorem LiesIn.step {segment : String} {next : Json} (first : Step part segment next)
    (lies : reader.LiesIn (path.child segment) next fault) : reader.LiesIn path part fault := by
  obtain ⟨steps, place, segments, leads, explains⟩ := lies
  refine ⟨segment :: steps, place, ?_, .step first leads, explains⟩
  rw [segments, Path.child, List.append_assoc, List.singleton_append]

/-! ### Leaves -/

variable {level : Nat} {field key : String} {document : Json}

theorem lies_checkLevel (failed : reader.checkLevel path level = .error fault) :
    reader.LiesIn path part fault := by
  unfold checkLevel at failed
  split at failed
  · cases failed
  · cases failed
    exact .here rfl

theorem error_of_operand (failed : operand path document = .error fault) :
    ∃ rejection, Value.ofJson document = .error rejection ∧
      fault = .malformed path (.rejected rejection) := by
  obtain ⟨rejection, rejected, rfl⟩ := mapError_eq_error_iff.mp failed
  exact ⟨rejection, rejected, rfl⟩

/-- Where the operand of a comparison fails: it is no value, or it does not suit the schema. -/
theorem error_of_comparedOperand
    (failed : reader.comparedOperand path field document = .error fault) :
    (∃ rejection, Value.ofJson document = .error rejection ∧
        fault = .malformed path (.rejected rejection)) ∨
      ∃ conversion, reader.Unfit field document conversion ∧
        fault = ⟨.conversion conversion, path⟩ := by
  rw [comparedOperand_eq] at failed
  rcases bind_eq_error_iff.mp failed with early | ⟨value, read, late⟩
  · exact Or.inl (error_of_operand early)
  · refine Or.inr ?_
    unfold coerceOperand at late
    split at late
    · cases late
    · obtain ⟨conversion, unfit, rfl⟩ := mapError_eq_error_iff.mp late
      exact ⟨conversion, ⟨value, _, mapError_eq_ok_iff.mp read, ‹_›, unfit⟩, rfl⟩

theorem lies_readEquality (named : path.field? = some field) (bare : part.isMapping = false)
    (failed : reader.readEquality path level field part = .error fault) :
    reader.LiesIn path part fault := by
  rw [readEquality_eq] at failed
  rcases bind_eq_error_iff.mp failed with deep | ⟨_, _, failed⟩
  · exact lies_checkLevel deep
  · rcases error_of_comparedOperand (map_eq_error_iff.mp failed) with
      ⟨rejection, rejected, rfl⟩ | ⟨conversion, unfit, rfl⟩
    · exact .here (Or.inl ⟨bare, rejected⟩)
    · exact .here ⟨field, named, Or.inl ⟨bare, unfit⟩⟩

theorem lies_resolve (entry : Json.Entry key document part) (marked : isOperatorKey key = true)
    (failed : reader.resolve path key = .error fault) : reader.LiesIn path part fault := by
  unfold resolve at failed
  cases found : reader.registry.resolve? key with
  | none =>
    rw [found] at failed
    cases failed
    exact .here ⟨marked, found, document, entry⟩
  | some operator =>
    rw [found] at failed
    cases failed

theorem resolve?_of_resolve {operator : Operator} (found : reader.resolve path key = .ok operator) :
    reader.registry.resolve? key = some operator := by
  unfold resolve at found
  cases resolved : reader.registry.resolve? key with
  | none =>
    rw [resolved] at found
    cases found
  | some other =>
    rw [resolved] at found
    cases found
    rfl

/-- Where the operand of an operator fails: as that of a comparison, if the operator is one. -/
theorem error_of_operatorOperand {category : Category}
    (failed : reader.operatorOperand path field category document = .error fault) :
    (∃ rejection, Value.ofJson document = .error rejection ∧
        fault = .malformed path (.rejected rejection)) ∨
      ∃ conversion, category = .comparison ∧ reader.Unfit field document conversion ∧
        fault = ⟨.conversion conversion, path⟩ := by
  unfold operatorOperand at failed
  split at failed
  · rcases error_of_comparedOperand failed with rejected | ⟨conversion, unfit, same⟩
    · exact Or.inl rejected
    · exact Or.inr ⟨conversion, ‹_›, unfit, same⟩
  · exact Or.inl (error_of_operand failed)

/-- Only a comparison for order has something against the shape of an operand, and only against
lists. What is brought to a boolean or to a string is one. -/
theorem isRange_of_misfit {operation : Operation} {value : Value} {misfit : Misfit}
    (refused : operation.condition value = .error (.shape misfit)) :
    misfit = .listInRange ∧
      ∃ comparison, operation = .compare comparison ∧ comparison.isRange = true := by
  cases operation with
  | compare comparison =>
    cases value with
    | list items =>
      rw [Operation.condition, compareWith] at refused
      by_cases range : comparison.isRange = true
      · rw [if_pos range] at refused
        cases refused
        exact ⟨rfl, comparison, rfl, range⟩
      · rw [if_neg range] at refused
        cases refused
    | _ => cases refused
  | presence =>
    rw [Operation.condition] at refused
    cases brought : Value.coerce .bool value with
    | error fault =>
      rw [brought] at refused
      cases refused
    | ok flag =>
      obtain ⟨wanted, rfl⟩ := Value.exists_bool_of_kind (Value.kind_of_coerce brought)
      rw [brought] at refused
      cases refused
  | matching =>
    rw [Operation.condition] at refused
    cases brought : Value.coerce .str value with
    | error fault =>
      rw [brought] at refused
      cases refused
    | ok text =>
      obtain ⟨pattern, rfl⟩ := Value.exists_str_of_kind (Value.kind_of_coerce brought)
      rw [brought] at refused
      cases refused

theorem lies_conditionOf (named : path.field? = some field) (entry : Json.Entry key document part)
    (marked : isOperatorKey key = true) {operator : Operator}
    (found : reader.registry.resolve? key = some operator)
    (failed : reader.conditionOf path field key operator document = .error fault) :
    reader.LiesIn path part fault := by
  unfold conditionOf at failed
  cases built : operator.builder with
  | logical connective =>
    rw [built] at failed
    cases failed
    exact .here ⟨document, connective, entry, operator, found, built⟩
  | field operation =>
    rw [built] at failed
    rcases bind_eq_error_iff.mp failed with early | ⟨value, given, late⟩
    · rcases error_of_operatorOperand early with
        ⟨rejection, rejected, rfl⟩ | ⟨conversion, comparison, unfit, rfl⟩
      · exact .here (Or.inr ⟨key, document, operation, entry, ⟨operator, found, built⟩, rejected⟩)
      · exact .here ⟨field, named,
          Or.inr ⟨key, document, operator, entry, marked, found, .schema comparison unfit⟩⟩
    · obtain ⟨cause, refused, rfl⟩ := mapError_eq_error_iff.mp late
      cases cause with
      | conversion conversion =>
        exact .here ⟨field, named,
          Or.inr ⟨key, document, operator, entry, marked, found, .operation built given refused⟩⟩
      | shape misfit =>
        obtain ⟨rfl, comparison, rfl, range⟩ := isRange_of_misfit refused
        exact .here ⟨rfl, key, document, comparison, entry, ⟨operator, found, built⟩, range⟩

theorem lies_readCondition (named : path.field? = some field) (entry : Json.Entry key document part)
    (marked : isOperatorKey key = true)
    (failed : reader.readCondition path level field key document = .error fault) :
    reader.LiesIn path part fault := by
  rw [readCondition_eq] at failed
  rcases bind_eq_error_iff.mp failed with deep | ⟨_, _, failed⟩
  · exact lies_checkLevel deep
  · rcases bind_eq_error_iff.mp failed with unknown | ⟨operator, found, failed⟩
    · exact lies_resolve entry marked unknown
    · exact lies_conditionOf named entry marked (resolve?_of_resolve found)
        (map_eq_error_iff.mp failed)

/-! ### Mappings and lists -/

/-- The step of a mapping: it is empty or too deep, or one of its entries fails. -/
theorem lies_mapping {members : List (String × Json)} {entries : Nat → Except Fault (List Tree)}
    (failed : ((reader.entryLevel path level members).bind fun inner =>
      (entries inner).map Tree.conjunction) = .error fault)
    (each : ∀ inner, entries inner = .error fault → reader.LiesIn path (.mapping members) fault) :
    reader.LiesIn path (.mapping members) fault := by
  rcases bind_eq_error_iff.mp failed with early | ⟨inner, _, late⟩
  · match members with
    | [] =>
      cases early
      exact .here rfl
    | [_] => cases early
    | _ :: _ :: _ => exact lies_checkLevel (map_eq_error_iff.mp early)
  · exact each inner (map_eq_error_iff.mp late)

mutual

theorem lies_readField (reader : Reader) (path : Path) (level : Nat) (field : String)
    (named : path.field? = some field) {fault : Fault} : (part : Json) →
    reader.readField path level field part = .error fault → reader.LiesIn path part fault
  | .mapping members, failed => by
    rw [readField_mapping] at failed
    exact lies_mapping failed fun inner =>
      lies_readOperators reader path inner field named members members fun _ member => member
  | .null, failed | .bool _, failed | .integer _, failed | .float _, failed | .string _, failed
  | .list _, failed => by
    rw [readField_operand _ _ _ _ rfl] at failed
    exact lies_readEquality named rfl failed

/-- The entries that are still to be read are entries of the whole mapping. -/
theorem lies_readOperators (reader : Reader) (path : Path) (level : Nat) (field : String)
    (named : path.field? = some field) {fault : Fault} (all : List (String × Json)) :
    (members : List (String × Json)) → members ⊆ all →
    reader.readOperators path level field members = .error fault →
    reader.LiesIn path (.mapping all) fault
  | [], _, failed => by
    rw [readOperators] at failed
    cases failed
  | (key, document) :: rest, among, failed => by
    rw [readOperators_cons] at failed
    obtain ⟨member, others⟩ := List.cons_subset.mp among
    rcases error_of_bind_cons failed with head | tail
    · unfold readOperator at head
      split at head
      · exact lies_readCondition named ⟨member⟩ ‹_› head
      · have plain := Bool.eq_false_iff.mpr ‹_›
        have further : (path.child key).field? = some (field ++ "." ++ key) := by
          rw [Path.field?_child, named, Path.extend, plain]
          rfl
        exact .step (.value plain ⟨member⟩)
          (lies_readField reader (path.child key) level (field ++ "." ++ key) further document head)
    · exact lies_readOperators reader path level field named all rest others tail

end

theorem logical_of_resolveLogical {connective : Connective}
    (found : reader.resolveLogical path key = .ok connective) :
    reader.Names key (.logical connective) := by
  unfold resolveLogical at found
  cases resolved : reader.resolve path key with
  | error fault =>
    rw [resolved] at found
    cases found
  | ok operator =>
    rw [resolved] at found
    refine ⟨operator, resolve?_of_resolve resolved, ?_⟩
    dsimp only at found
    split at found <;> cases found
    assumption

theorem lies_resolveLogical (entry : Json.Entry key document part)
    (marked : isOperatorKey key = true)
    (failed : reader.resolveLogical path key = .error fault) : reader.LiesIn path part fault := by
  unfold resolveLogical at failed
  cases resolved : reader.resolve path key with
  | error earlier =>
    rw [resolved] at failed
    cases failed
    exact lies_resolve entry marked resolved
  | ok operator =>
    rw [resolved] at failed
    dsimp only at failed
    split at failed <;> cases failed
    exact .here ⟨document, _, entry, operator, resolve?_of_resolve resolved, ‹_›⟩

/-- The step of a logical operator on a list: it is too deep or empty, or one of its conditions fails. -/
theorem lies_readGroup_list {connective : Connective} {items : List Json}
    (entry : Json.Entry key (.list items) part) (logical : reader.Names key (.logical connective))
    (failed : reader.readGroup path level key connective (.list items) = .error fault)
    (elements : reader.readElements path (level + 1) key 0 items = .error fault →
      reader.LiesIn path part fault) :
    reader.LiesIn path part fault := by
  rw [readGroup_list] at failed
  rcases bind_eq_error_iff.mp failed with deep | ⟨_, _, failed⟩
  · exact lies_checkLevel deep
  · have conditions := map_eq_error_iff.mp failed
    cases items with
    | nil =>
      cases conditions
      exact .here ⟨entry, connective, logical⟩
    | cons item rest => exact elements conditions

theorem lies_readGroup_other {connective : Connective} (entry : Json.Entry key document part)
    (logical : reader.Names key (.logical connective)) (noList : ∀ items, document ≠ .list items)
    (failed : reader.readGroup path level key connective document = .error fault) :
    reader.LiesIn path part fault := by
  rw [readGroup_other _ _ _ _ _ noList] at failed
  rcases bind_eq_error_iff.mp failed with deep | ⟨_, _, refused⟩
  · exact lies_checkLevel deep
  · cases refused
    exact .here ⟨document, connective, entry, logical, noList⟩

theorem lies_readMapping_other (bare : part.isMapping = false)
    (failed : reader.readMapping path level part = .error fault) :
    reader.LiesIn path part fault := by
  rw [readMapping_other _ _ _ bare] at failed
  cases failed
  split <;> exact .here bare

mutual

theorem lies_readMapping (reader : Reader) (path : Path) (level : Nat)
    (unnamed : path.field? = none) {fault : Fault} : (part : Json) →
    reader.readMapping path level part = .error fault → reader.LiesIn path part fault
  | .mapping members, failed => by
    rw [readMapping_mapping] at failed
    exact lies_mapping failed fun inner =>
      lies_readEntries reader path inner unnamed members members fun _ member => member
  | .null, failed | .bool _, failed | .integer _, failed | .float _, failed | .string _, failed
  | .list _, failed =>
    lies_readMapping_other rfl failed
termination_by structural part => part

theorem lies_readEntries (reader : Reader) (path : Path) (level : Nat)
    (unnamed : path.field? = none) {fault : Fault} (all : List (String × Json)) :
    (members : List (String × Json)) → members ⊆ all →
    reader.readEntries path level members = .error fault →
    reader.LiesIn path (.mapping all) fault
  | [], _, failed => by
    rw [readEntries] at failed
    cases failed
  | (key, document) :: rest, among, failed => by
    rw [readEntries_cons] at failed
    obtain ⟨member, others⟩ := List.cons_subset.mp among
    rcases error_of_bind_cons failed with head | tail
    · unfold readEntry at head
      split at head
      · rcases bind_eq_error_iff.mp head with early | ⟨connective, found, late⟩
        · exact lies_resolveLogical ⟨member⟩ ‹_› early
        · exact lies_readGroup reader path level key ‹_› connective
            (logical_of_resolveLogical found) document ⟨member⟩ late
      · have plain := Bool.eq_false_iff.mpr ‹_›
        have named : (path.child key).field? = some key := by
          rw [Path.field?_child, unnamed, Path.extend, plain]
          rfl
        exact .step (.value plain ⟨member⟩)
          (lies_readField reader (path.child key) level key named document head)
    · exact lies_readEntries reader path level unnamed all rest others tail
termination_by structural members => members

theorem lies_readGroup (reader : Reader) (path : Path) (level : Nat) (key : String)
    (marked : isOperatorKey key = true) (connective : Connective)
    (logical : reader.Names key (.logical connective)) {part : Json} {fault : Fault} :
    (document : Json) → Json.Entry key document part →
    reader.readGroup path level key connective document = .error fault →
    reader.LiesIn path part fault
  | .list items, entry, failed =>
    lies_readGroup_list entry logical failed
      (lies_readElements reader path (level + 1) key marked entry 0 items rfl)
  | .null, entry, failed | .bool _, entry, failed | .integer _, entry, failed
  | .float _, entry, failed | .string _, entry, failed | .mapping _, entry, failed =>
    lies_readGroup_other entry logical (by simp) failed
termination_by structural document => document

/-- The conditions that are still to be read are those of the whole list behind a position. -/
theorem lies_readElements (reader : Reader) (path : Path) (level : Nat) (key : String)
    (marked : isOperatorKey key = true) {part : Json} {all : List Json}
    (entry : Json.Entry key (.list all) part) {fault : Fault} (index : Nat) :
    (items : List Json) → all.drop index = items →
    reader.readElements path level key index items = .error fault →
    reader.LiesIn path part fault
  | [], _, failed => by
    rw [readElements] at failed
    cases failed
  | item :: rest, behind, failed => by
    rw [readElements_cons] at failed
    rcases error_of_bind_cons failed with head | tail
    · have found : all[index]? = some item := by
        rw [← List.head?_drop, behind, List.head?_cons]
      exact .step (.element marked entry found)
        (lies_readMapping reader (path.child (Path.element key index)) level
          (path.field?_child_element marked index) item head)
    · refine lies_readElements reader path level key marked entry (index + 1) rest ?_ tail
      rw [← List.tail_drop, behind, List.tail_cons]
termination_by structural items => items

end

/-! ### Filters -/

/-- Every fault points at what it is about. Whatever the operators, the limit and the schema, the path
of the fault of a document can be walked through the document to its end, and what stands there
shows the problem: the mapping with the unknown operator, the mapping with the empty list of a
logical operator, the operand that cannot be brought to a kind or the mapping with the operator
that has it, and so for every other problem. Where no key stands twice, the path leads to this
place alone. -/
theorem fault_points_at_its_cause (reader : Reader) (document : Json) {fault : Fault}
    (failed : reader.read document = .error fault) :
    ∃ place, Leads document fault.path.segments place ∧
      reader.Explains fault.path place fault.problem ∧
      (document.hasDistinctKeys = true →
        ∀ other, Leads document fault.path.segments other → other = place) := by
  obtain ⟨steps, place, segments, leads, explains⟩ :=
    lies_readMapping reader .root 1 rfl document failed
  rw [Path.root, List.nil_append] at segments
  rw [segments]
  exact ⟨place, leads, explains, fun distinct other again => again.unique leads distinct⟩

theorem fault_points_into_second_condition :
    let document := Json.mapping [("@or", .list [.mapping [("a", .bool true)],
      .mapping [("dims", .mapping [("width", .mapping [("@bogus", .bool true)])])]])]
    let fault : Fault := ⟨.unknownOperator "@bogus", ⟨["@or[1]", "dims", "width"]⟩⟩
    standard.read document = .error fault ∧
      ∃ place, Leads document ["@or[1]", "dims", "width"] place ∧
        (∃ value, Json.Entry "@bogus" value place) ∧
        ∀ other, Leads document ["@or[1]", "dims", "width"] other → other = place := by
  intro document fault
  have failed : standard.read document = .error fault := by rfl
  obtain ⟨place, leads, ⟨_, _, entry⟩, only⟩ := fault_points_at_its_cause standard document failed
  exact ⟨failed, place, leads, entry, only (by decide)⟩

end Reader
end Filter
end Sieve
