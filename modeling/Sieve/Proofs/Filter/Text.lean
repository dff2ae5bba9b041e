/-
Trees in texts. A tree is written as a document, and this as a compact text. Every level of the tree
takes two containers: a group is a mapping around a list, a leaf is a mapping around another. So
two limits meet where the text is read, the one on the levels of a tree and the one on open
containers, and from the 64th level on it is the second that decides. A tree that can be read from
a document is read from its text too, unless it has as many levels as that; then its text counts as
no document at all.

That holds for operands without a nesting of their own that a text gives back exactly: truth
values, integers and strings.
-/

import Mathlib.Data.List.Nodup
import Sieve.Proofs.Filter.Written
import Sieve.Proofs.Json.Compact
import Sieve.Settings.Basic

namespace Sieve

/-- A truth value, an integer or a string. -/
inductive Value.IsScalar : Value → Prop where
  | bool (flag : Bool) : IsScalar (.bool flag)
  | int (number : Int64) : IsScalar (.int number)
  | str (text : String) : IsScalar (.str text)

namespace Filter

/-! ### Conditions on scalars -/

/-- A comparison is with a truth value, an integer or a string. -/
def Condition.IsScalar : Condition → Prop
  | .compare _ operand => operand.IsScalar
  | .present _ => True
  | .matching _ => True

/-- The operand of such a condition is written without containers, and read back. -/
theorem Condition.isExact_written {condition : Condition} (scalar : condition.IsScalar) :
    condition.written.2.IsExact ∧ condition.written.2.nesting = 0 := by
  cases condition with
  | compare comparison operand =>
    cases scalar with
    | bool flag => exact ⟨.bool flag, rfl⟩
    | int number => exact ⟨.integer _, rfl⟩
    | str text => exact ⟨.string text, rfl⟩
  | present wanted => exact ⟨.bool wanted, rfl⟩
  | matching pattern => exact ⟨.string pattern, rfl⟩

/-! ### The levels of a tree and the containers of its text -/

theorem isExact_member {key : String} {document : Json} (exact : document.IsExact) :
    (Json.mapping [(key, document)]).IsExact :=
  .mapping (List.nodup_singleton key) (List.forall_mem_singleton.mpr exact)

@[simp]
theorem nesting_member (key : String) (document : Json) :
    (Json.mapping [(key, document)]).nesting = 1 + document.nesting := by
  rw [Json.nesting, Json.greatestNestingOfMembers, Json.greatestNestingOfMembers, Nat.max_zero]

namespace Tree

theorem isExact_writtenEach {trees : List Tree} (each : ∀ tree ∈ trees, tree.written.IsExact) :
    ∀ item ∈ writtenEach trees, item.IsExact := by
  induction trees with
  | nil => exact fun _ member => absurd member List.not_mem_nil
  | cons tree rest inductionHypothesis =>
    obtain ⟨head, tail⟩ := List.forall_mem_cons.mp each
    exact List.forall_mem_cons.mpr ⟨head, inductionHypothesis tail⟩

theorem greatestNesting_writtenEach {trees : List Tree}
    (each : ∀ tree ∈ trees, tree.written.nesting = 2 * tree.depth) :
    Json.greatestNesting (writtenEach trees) = 2 * greatestDepth trees := by
  induction trees with
  | nil => rfl
  | cons tree rest inductionHypothesis =>
    obtain ⟨head, tail⟩ := List.forall_mem_cons.mp each
    rw [writtenEach, Json.greatestNesting, greatestDepth, head, inductionHypothesis tail]
    omega

/-- What a tree is written as is read back from its text. -/
theorem isExact_written {tree : Tree} (scalar : tree.WellFormed fun _ => Condition.IsScalar) :
    tree.written.IsExact := by
  induction scalar with
  | leaf kept => exact isExact_member (isExact_member (Condition.isExact_written kept).1)
  | group _ _ inductionHypothesis =>
    exact isExact_member (.list (isExact_writtenEach inductionHypothesis))

/-- Every level takes two containers. -/
theorem nesting_written {tree : Tree} (scalar : tree.WellFormed fun _ => Condition.IsScalar) :
    tree.written.nesting = 2 * tree.depth := by
  induction scalar with
  | @leaf field condition kept =>
    rw [written, nesting_member, nesting_member, (Condition.isExact_written kept).2, depth]
  | @group connective children _ _ inductionHypothesis =>
    rw [written, nesting_member, Json.nesting, greatestNesting_writtenEach inductionHypothesis,
      depth]
    omega

end Tree

/-! ### Reading the text of a tree -/

namespace Reader

/-- The text of a tree is read as its document, if that leaves room for the containers. -/
theorem readText_written {tree : Tree} (reader : Reader)
    (scalar : tree.WellFormed fun _ => Condition.IsScalar)
    (short : tree.written.compact.utf8ByteSize ≤ longestText) :
    (tree.depth < 64 → reader.readText tree.written.compact = reader.read tree.written) ∧
      (64 ≤ tree.depth → ∃ fault : Json.Fault,
        reader.readText tree.written.compact = .error (.malformed .root (.noDocument fault)) ∧
          fault.cause = .tooDeep) := by
  obtain ⟨fits, exceeds⟩ := (Tree.isExact_written scalar).read_compact
  rw [Tree.nesting_written scalar, Json.nestingRoom] at fits exceeds
  unfold readText
  rw [if_neg (Nat.not_lt_of_le short)]
  constructor
  · intro shallow
    rw [fits (by omega)]
  · intro deep
    obtain ⟨fault, refused, cause⟩ := exceeds (by omega)
    rw [refused]
    exact ⟨fault, rfl, cause⟩

/-- A tree that is read from some document is read from its own compact text exactly if it has less
than 64 levels, where the text is not too long and all comparisons are with truth values, integers
and strings. From there on the limit on levels does not matter: the text is malformed, for it has
too many containers open. -/
theorem texts_of_64_levels_are_malformed (limit : Nat) {document : Json} {tree : Tree}
    (image : (standard.withLimit limit).read document = .ok tree)
    (scalar : tree.WellFormed fun _ => Condition.IsScalar)
    (short : tree.written.compact.utf8ByteSize ≤ longestText) :
    ((standard.withLimit limit).readText tree.written.compact = .ok tree ↔ tree.depth < 64) ∧
      (64 ≤ tree.depth → ∃ fault : Json.Fault,
        (standard.withLimit limit).readText tree.written.compact =
            .error (.malformed .root (.noDocument fault)) ∧
          fault.cause = .tooDeep) := by
  obtain ⟨⟨taken, shallow⟩, rfl⟩ := (answers_read limit document).eq_ok_iff.mp image
  obtain ⟨accepted, same⟩ := treeOf_written (isReadable_treeOf document taken)
  have written : (standard.withLimit limit).read (treeOf document).written =
      .ok (treeOf document) :=
    (answers_read limit _).eq_ok_iff.mpr ⟨⟨accepted, by rwa [same]⟩, same⟩
  obtain ⟨fits, exceeds⟩ := (standard.withLimit limit).readText_written scalar short
  refine ⟨⟨fun read => ?_, fun few => (fits few).trans written⟩, exceeds⟩
  by_contra many
  obtain ⟨fault, refused, -⟩ := exceeds (Nat.le_of_not_lt many)
  cases refused.symm.trans read

theorem text_of_escapes_is_read :
    let document := Json.mapping [("a\"", .mapping [("@gt", .string "\n\\")]),
      ("@nor", .list [.mapping [("b", .integer ⟨-7, by decide, by decide⟩)]])]
    let tree := Tree.group .and [.leaf "a\"" (.compare .gt (.str "\n\\")),
      .group .nor [.leaf "b" (.compare .eq (.int (-7)))]]
    (standard.withLimit 3).read document = .ok tree ∧
      (tree.WellFormed fun _ => Condition.IsScalar) ∧
      tree.written.compact.utf8ByteSize ≤ longestText ∧
      (standard.withLimit 3).readText tree.written.compact = .ok tree := by
  intro document tree
  have image : (standard.withLimit 3).read document = .ok tree := rfl
  have first : (Tree.leaf "a\"" (.compare .gt (.str "\n\\"))).WellFormed
      fun _ => Condition.IsScalar := .leaf (.str _)
  have second : (Tree.leaf "b" (.compare .eq (.int (-7)))).WellFormed
      fun _ => Condition.IsScalar := .leaf (.int _)
  have scalar : tree.WellFormed fun _ => Condition.IsScalar := by
    refine .group (List.cons_ne_nil _ _) (List.forall_mem_cons.mpr ⟨first, ?_⟩)
    refine List.forall_mem_singleton.mpr (.group (List.cons_ne_nil _ _) ?_)
    exact List.forall_mem_singleton.mpr second
  have short : tree.written.compact.utf8ByteSize ≤ longestText := by decide +kernel
  exact ⟨image, scalar, short,
    (texts_of_64_levels_are_malformed 3 image scalar short).1.mpr (by decide)⟩

end Reader

/-! ### The greatest depth that can be set -/

namespace Tree

/-- A leaf under groups of one child each. -/
def tower : (groups : Nat) → Tree
  | 0 => .leaf "a" (.compare .eq (.int 1))
  | groups + 1 => .group .and [tower groups]

@[simp]
theorem depth_tower (groups : Nat) : (tower groups).depth = groups + 1 := by
  induction groups with
  | zero => rfl
  | succ groups inductionHypothesis =>
    rw [tower, depth, greatestDepth, greatestDepth, inductionHypothesis]
    omega

theorem wellFormed_tower {rule : String → Condition → Prop}
    (kept : rule "a" (.compare .eq (.int 1))) (groups : Nat) : (tower groups).WellFormed rule := by
  induction groups with
  | zero => exact .leaf kept
  | succ groups inductionHypothesis =>
    exact .group (List.cons_ne_nil _ _) (List.forall_mem_singleton.mpr inductionHypothesis)

/-- One group more puts its list around the text. -/
theorem compact_tower (groups : Nat) : (tower (groups + 1)).written.compact =
    "\x7b\"@and\":[" ++ (tower groups).written.compact ++ "]\x7d" := by
  have marker : Json.stringText Connective.and.marker = ['"', '@', 'a', 'n', 'd', '"'] := by
    decide
  have text : (tower (groups + 1)).written.compactText =
      "\x7b\"@and\":[".toList ++ (tower groups).written.compactText ++ "]\x7d".toList := by
    simp [tower, written, writtenEach, Json.compactText, Json.compactMembers, Json.compactItems,
      Json.compactMoreItems, Json.compactMoreMembers, marker]
  rw [Json.compact, text, String.ofList_append, String.ofList_append, String.ofList_toList,
    String.ofList_toList]
  rfl

/-- Such a tree has a short text. -/
theorem utf8ByteSize_tower (groups : Nat) :
    (tower groups).written.compact.utf8ByteSize = 11 * groups + 15 := by
  have opening : "\x7b\"@and\":[".utf8ByteSize = 9 := by decide +kernel
  have closing : "]\x7d".utf8ByteSize = 2 := by decide +kernel
  induction groups with
  | zero => decide +kernel
  | succ groups inductionHypothesis =>
    rw [compact_tower, String.utf8ByteSize_append, String.utf8ByteSize_append, inductionHypothesis,
      opening, closing]
    omega

end Tree

namespace Reader

/-- With the greatest limit that can be set, the text of a tree within the limit is malformed. -/
theorem text_of_greatest_depth_is_malformed :
    let tree := Tree.tower 63
    let reader := standard.withLimit Settings.greatestDepth
    reader.read tree.written = .ok tree ∧ tree.depth = Settings.greatestDepth ∧
      (tree.WellFormed fun _ => Condition.IsScalar) ∧
      tree.written.compact.utf8ByteSize ≤ longestText ∧
      ∃ fault : Json.Fault,
        reader.readText tree.written.compact = .error (.malformed .root (.noDocument fault)) := by
  intro tree reader
  have depth : tree.depth = Settings.greatestDepth := Tree.depth_tower 63
  have scalar : tree.WellFormed fun _ => Condition.IsScalar := Tree.wellFormed_tower (.int 1) 63
  have readable : tree.WellFormed IsReadable :=
    Tree.wellFormed_tower ⟨by decide, rfl, trivial⟩ 63
  have short : tree.written.compact.utf8ByteSize ≤ longestText := by
    rw [Tree.utf8ByteSize_tower]
    decide
  obtain ⟨accepted, same⟩ := treeOf_written readable
  obtain ⟨fault, refused, -⟩ := (reader.readText_written scalar short).2 depth.ge
  refine ⟨(answers_read _ _).eq_ok_iff.mpr ⟨⟨accepted, ?_⟩, same⟩, depth, scalar, short, fault,
    refused⟩
  rw [same]
  exact depth.le

end Reader

end Filter

end Sieve
