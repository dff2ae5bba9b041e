/-
Two readers side by side. Most of what is proved about reading compares two readings of one
document: with a smaller limit and with a larger one, with a schema and without. The reader is
gone through once, here, whatever is compared. A relation between two outcomes has to hold
where leaves are read, and it has to survive the few steps that put trees together; then it
holds between the two readings of every document.

Trees in a list sit on one level, and their group on the level above; so the relation may
speak of levels. A reading of one reader is compared with itself where something is to be
shown of its outcome alone.
-/

import Sieve.Proofs.Filter.Reading

namespace Sieve.Filter.Reader

/-- What has to be shown of two readers so that relations between their outcomes hold throughout: one
between trees on a level, and one between lists of trees on a level. -/
structure Alongside (first second : Reader)
    (one : Nat → Except Fault Tree → Except Fault Tree → Prop)
    (many : Nat → Except Fault (List Tree) → Except Fault (List Tree) → Prop) : Prop where
  /-- Both know the same logical operators. -/
  resolveLogical : ∀ path key, second.resolveLogical path key = first.resolveLogical path key
  condition : ∀ path level field key document,
    one level (first.readCondition path level field key document)
      (second.readCondition path level field key document)
  equality : ∀ path level field document,
    one level (first.readEquality path level field document)
      (second.readEquality path level field document)
  /-- A document is refused for its shape. -/
  malformed : ∀ level fault, one level (.error fault) (.error fault)
  /-- A list is refused for its shape, but a level below the limit first. -/
  refused : ∀ path level fault,
    one level ((first.checkLevel path level).bind fun _ => .error fault)
      ((second.checkLevel path level).bind fun _ => .error fault)
  nil : ∀ level, many level (.ok []) (.ok [])
  cons : ∀ {head other : Except Fault Tree} {tail others : Except Fault (List Tree)} level,
    one level head other → many level tail others →
      many level (head.bind fun tree => tail.map (tree :: ·))
        (other.bind fun tree => others.map (tree :: ·))
  mapping : ∀ {entries others : Nat → Except Fault (List Tree)} path level members,
    (∀ inner, many inner (entries inner) (others inner)) →
      (∀ inner trees, entries inner = .ok trees → trees.length = members.length) →
        one level
          ((first.entryLevel path level members).bind fun inner =>
            (entries inner).map Tree.conjunction)
          ((second.entryLevel path level members).bind fun inner =>
            (others inner).map Tree.conjunction)
  group : ∀ {children others : Except Fault (List Tree)} path level connective,
    many (level + 1) children others → (∀ trees, children = .ok trees → trees ≠ []) →
      one level
        ((first.checkLevel path level).bind fun _ => children.map (Tree.group connective))
        ((second.checkLevel path level).bind fun _ => others.map (Tree.group connective))

namespace Alongside

variable {first second : Reader} {one : Nat → Except Fault Tree → Except Fault Tree → Prop}
  {many : Nat → Except Fault (List Tree) → Except Fault (List Tree) → Prop}

/-! ### Fields -/

theorem readField_operand (alongside : Alongside first second one many) (path : Path)
    (level : Nat) (field : String) {document : Json} (bare : document.isMapping = false) :
    one level (first.readField path level field document)
      (second.readField path level field document) := by
  rw [Reader.readField_operand _ _ _ _ bare, Reader.readField_operand _ _ _ _ bare]
  exact alongside.equality path level field document

mutual

theorem readField (alongside : Alongside first second one many) (path : Path) (level : Nat)
    (field : String) : (document : Json) →
    one level (first.readField path level field document)
      (second.readField path level field document)
  | .mapping members => by
    rw [readField_mapping, readField_mapping]
    exact alongside.mapping path level members
      (fun inner => readOperators alongside path inner field members)
      fun inner _ => length_readOperators first path inner
  | .null | .bool _ | .integer _ | .float _ | .string _ | .list _ =>
    alongside.readField_operand path level field rfl

theorem readOperators (alongside : Alongside first second one many) (path : Path) (level : Nat)
    (field : String) : (members : List (String × Json)) →
    many level (first.readOperators path level field members)
      (second.readOperators path level field members)
  | [] => by
    rw [Reader.readOperators, Reader.readOperators]
    exact alongside.nil level
  | (key, document) :: rest => by
    rw [readOperators_cons, readOperators_cons]
    refine alongside.cons level ?_ (readOperators alongside path level field rest)
    unfold readOperator
    split
    · exact alongside.condition path level field key document
    · exact readField alongside (path.child key) level (field ++ "." ++ key) document

end

/-! ### Mappings and lists -/

theorem readMapping_other (alongside : Alongside first second one many) (path : Path)
    (level : Nat) {document : Json} (bare : document.isMapping = false) :
    one level (first.readMapping path level document)
      (second.readMapping path level document) := by
  rw [Reader.readMapping_other _ _ _ bare, Reader.readMapping_other _ _ _ bare]
  exact alongside.malformed level _

theorem readGroup_other (alongside : Alongside first second one many) (path : Path)
    (level : Nat) (key : String) (connective : Connective) {document : Json}
    (noList : ∀ items, document ≠ .list items) :
    one level (first.readGroup path level key connective document)
      (second.readGroup path level key connective document) := by
  rw [Reader.readGroup_other _ _ _ _ _ noList, Reader.readGroup_other _ _ _ _ _ noList]
  exact alongside.refused path level _

theorem readGroup_list (alongside : Alongside first second one many) (path : Path)
    (level : Nat) (key : String) (connective : Connective) {items : List Json}
    (elements : many (level + 1) (first.readElements path (level + 1) key 0 items)
      (second.readElements path (level + 1) key 0 items)) :
    one level (first.readGroup path level key connective (.list items))
      (second.readGroup path level key connective (.list items)) := by
  rw [Reader.readGroup_list, Reader.readGroup_list]
  cases items with
  | nil => exact alongside.refused path level ⟨.childless key, path⟩
  | cons item rest =>
    refine alongside.group path level connective elements fun trees read => ?_
    exact List.ne_nil_of_length_eq_add_one (length_readElements first path (level + 1) read)

mutual

theorem readMapping (alongside : Alongside first second one many) (path : Path) (level : Nat) :
    (document : Json) →
    one level (first.readMapping path level document) (second.readMapping path level document)
  | .mapping members => by
    rw [readMapping_mapping, readMapping_mapping]
    exact alongside.mapping path level members
      (fun inner => readEntries alongside path inner members)
      fun inner _ => length_readEntries first path inner
  | .null | .bool _ | .integer _ | .float _ | .string _ | .list _ =>
    alongside.readMapping_other path level rfl

theorem readEntries (alongside : Alongside first second one many) (path : Path) (level : Nat) :
    (members : List (String × Json)) →
    many level (first.readEntries path level members) (second.readEntries path level members)
  | [] => by
    rw [Reader.readEntries, Reader.readEntries]
    exact alongside.nil level
  | (key, document) :: rest => by
    rw [readEntries_cons, readEntries_cons]
    refine alongside.cons level ?_ (readEntries alongside path level rest)
    unfold readEntry
    split
    · rw [alongside.resolveLogical]
      cases first.resolveLogical path key with
      | error fault => exact alongside.malformed level fault
      | ok connective => exact readGroup alongside path level key connective document
    · exact alongside.readField (path.child key) level key document

theorem readGroup (alongside : Alongside first second one many) (path : Path) (level : Nat)
    (key : String) (connective : Connective) : (document : Json) →
    one level (first.readGroup path level key connective document)
      (second.readGroup path level key connective document)
  | .list items =>
    alongside.readGroup_list path level key connective
      (readElements alongside path (level + 1) key 0 items)
  | .null | .bool _ | .integer _ | .float _ | .string _ | .mapping _ =>
    alongside.readGroup_other path level key connective (by simp)

theorem readElements (alongside : Alongside first second one many) (path : Path) (level : Nat)
    (key : String) (index : Nat) : (items : List Json) →
    many level (first.readElements path level key index items)
      (second.readElements path level key index items)
  | [] => by
    rw [Reader.readElements, Reader.readElements]
    exact alongside.nil level
  | item :: rest => by
    rw [readElements_cons, readElements_cons]
    exact alongside.cons level
      (readMapping alongside (path.child (Path.element key index)) level item)
      (readElements alongside path level key (index + 1) rest)

end

/-- What holds alongside holds of the two readings of a document. -/
theorem read (alongside : Alongside first second one many) (document : Json) :
    one 1 (first.read document) (second.read document) :=
  alongside.readMapping .root 1 document

end Alongside

end Sieve.Filter.Reader
