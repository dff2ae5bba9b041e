/-
Reading filters. A filter is written as a mapping. A key with the sign of
operators joins the conditions of a list; any other key names a field, and its
value is either an operand, which the field has to equal, or a mapping of
operators to operands. In such a mapping a key without the sign goes on with the
name of the field, after a point. A mapping of several keys asks for all of its
entries, in their order.

A node of the tree sits on a level; the root is on level one, and the children of
a group one level below it. A node below the deepest level is refused when it is
met, so no tree is deeper than the limit it was read with.
-/

import Sieve.Filter.Fault
import Sieve.Filter.Registry
import Sieve.Filter.Schema
import Sieve.Json.Reader

namespace Sieve.Filter

/-- What a filter is read with: the operators, the deepest level and the schema. -/
structure Reader where
  registry : Registry
  limit : Nat
  schema : Schema

/-- The deepest level where nothing else is said. -/
def standardLimit : Nat := 16

/-- The reader with the standard operators and limit, and no schema. -/
def Reader.standard : Reader :=
  ⟨.standard, standardLimit, .empty⟩

namespace Reader

/-! ### Levels -/

/-- Refuses a node on a level below the limit. -/
def checkLevel (reader : Reader) (path : Path) (level : Nat) : Except Fault Unit :=
  if level ≤ reader.limit then .ok () else .error ⟨.tooDeep reader.limit, path⟩

/-- The level of the entries of a mapping on a level: several entries are the children of a group
on that level. -/
def entryLevel (reader : Reader) (path : Path) (level : Nat) :
    List (String × Json) → Except Fault Nat
  | [] => .error (.malformed path .emptyMapping)
  | [_] => .ok level
  | _ => (reader.checkLevel path level).map fun _ => level + 1

/-! ### Operands -/

/-- A document as an operand. -/
def operand (path : Path) (document : Json) : Except Fault Value :=
  (Value.ofJson document).mapError fun rejection => .malformed path (.rejected rejection)

/-- A document as the operand of a comparison on a field, brought to the kind in the schema. -/
def comparedOperand (reader : Reader) (path : Path) (field : String) (document : Json) :
    Except Fault Value :=
  match operand path document with
  | .error fault => .error fault
  | .ok value =>
    match reader.schema.get? field with
    | none => .ok value
    | some target =>
      (Value.coerceEach target value).mapError fun fault => ⟨.conversion fault, path⟩

/-- The operator of a key. -/
def resolve (reader : Reader) (path : Path) (key : String) : Except Fault Operator :=
  match reader.registry.resolve? key with
  | none => .error ⟨.unknownOperator key, path⟩
  | some operator => .ok operator

/-- The connective of a key that has to join a list. -/
def resolveLogical (reader : Reader) (path : Path) (key : String) : Except Fault Connective :=
  match reader.resolve path key with
  | .error fault => .error fault
  | .ok operator =>
    match operator.builder with
    | .logical connective => .ok connective
    | .field _ => .error (.malformed path (.operatorWithoutField key))

/-- The operand of an operator on a field. Only comparisons know the schema. -/
def operatorOperand (reader : Reader) (path : Path) (field : String) (category : Category)
    (document : Json) : Except Fault Value :=
  if category = .comparison then reader.comparedOperand path field document
  else operand path document

/-- A condition on a field: an operator and its operand. -/
def readCondition (reader : Reader) (path : Path) (level : Nat) (field key : String)
    (document : Json) : Except Fault Tree :=
  match reader.checkLevel path level with
  | .error fault => .error fault
  | .ok () =>
    match reader.resolve path key with
    | .error fault => .error fault
    | .ok operator =>
      match operator.builder with
      | .logical _ => .error (.malformed path (.logicalOnField key))
      | .field operation =>
        match reader.operatorOperand path field operator.category document with
        | .error fault => .error fault
        | .ok value =>
          match operation.condition value with
          | .error fault => .error (fault.atPath path)
          | .ok condition => .ok (.leaf field condition)

/-- A field that has to equal an operand. -/
def readEquality (reader : Reader) (path : Path) (level : Nat) (field : String)
    (document : Json) : Except Fault Tree :=
  match reader.checkLevel path level with
  | .error fault => .error fault
  | .ok () =>
    (reader.comparedOperand path field document).map fun value => .leaf field (.compare .eq value)

/-! ### Mappings -/

mutual

/-- The value of a field: a mapping of operators, or an operand that it has to equal. -/
def readField (reader : Reader) (path : Path) (level : Nat) (field : String) :
    Json → Except Fault Tree
  | .mapping members =>
    match reader.entryLevel path level members with
    | .error fault => .error fault
    | .ok inner => (readOperators reader path inner field members).map Tree.conjunction
  | document => reader.readEquality path level field document

/-- The entries of a mapping of operators. -/
def readOperators (reader : Reader) (path : Path) (level : Nat) (field : String) :
    List (String × Json) → Except Fault (List Tree)
  | [] => .ok []
  | (key, document) :: rest =>
    match
      if isOperatorKey key then reader.readCondition path level field key document
      else readField reader (path.child key) level (field ++ "." ++ key) document with
    | .error fault => .error fault
    | .ok tree => (readOperators reader path level field rest).map (tree :: ·)

end

mutual

/-- A mapping of fields and logical operators, at the root or in the list of such an operator. -/
def readMapping (reader : Reader) (path : Path) (level : Nat) : Json → Except Fault Tree
  | .mapping members =>
    match reader.entryLevel path level members with
    | .error fault => .error fault
    | .ok inner => (readEntries reader path inner members).map Tree.conjunction
  | _ => .error (.malformed path (if path.isRoot then .noMapping else .elementIsNoMapping))

/-- The entries of such a mapping. -/
def readEntries (reader : Reader) (path : Path) (level : Nat) :
    List (String × Json) → Except Fault (List Tree)
  | [] => .ok []
  | (key, document) :: rest =>
    match
      if isOperatorKey key then
        match reader.resolveLogical path key with
        | .error fault => .error fault
        | .ok connective => readGroup reader path level key connective document
      else reader.readField (path.child key) level key document with
    | .error fault => .error fault
    | .ok tree => (readEntries reader path level rest).map (tree :: ·)

/-- A logical operator and its list. -/
def readGroup (reader : Reader) (path : Path) (level : Nat) (key : String)
    (connective : Connective) : Json → Except Fault Tree
  | .list items =>
    match reader.checkLevel path level with
    | .error fault => .error fault
    | .ok () =>
      if items.isEmpty then .error ⟨.childless key, path⟩
      else (readElements reader path (level + 1) key 0 items).map (.group connective)
  | _ =>
    match reader.checkLevel path level with
    | .error fault => .error fault
    | .ok () => .error (.malformed path (.noList key))

/-- The conditions in the list of a logical operator, from a position on. -/
def readElements (reader : Reader) (path : Path) (level : Nat) (key : String) (index : Nat) :
    List Json → Except Fault (List Tree)
  | [] => .ok []
  | item :: rest =>
    match readMapping reader (path.child (Path.element key index)) level item with
    | .error fault => .error fault
    | .ok tree => (readElements reader path level key (index + 1) rest).map (tree :: ·)

end

/-! ### Filters -/

/-- Reads a filter from a document. -/
def read (reader : Reader) (document : Json) : Except Fault Tree :=
  reader.readMapping .root 1 document

/-- Reads a filter from a text, which must not be too long. -/
def readText (reader : Reader) (text : String) : Except Fault Tree :=
  if longestText < text.utf8ByteSize then .error (.malformed .root .tooLong)
  else
    match Json.read text with
    | .error fault => .error (.malformed .root (.noDocument fault))
    | .ok document => reader.read document

end Reader

end Sieve.Filter
