/-
This file proves that the limit on depth cuts filters by the height of their trees and
does nothing else. Two readings of one document are followed side by side, one with a
limit and one with a larger one. The levels that they count go along with the tree that
is built: a node that is read on a level reaches down to that level plus its height. So
wherever the smaller limit refuses a node, the tree that the larger limit lets through
is too tall for the smaller one; and where no node is refused, both do the same.

The level of a mapping depends on the number of its entries, and so does the node that
it becomes. A single entry stays on the level of its mapping, as its tree takes the
place of a group; several entries go one level down, and a group stands over them.
-/

import Sieve.Proofs.Filter.Alongside

namespace Sieve.Filter

variable {α β : Type}

/-! ### Heights -/

theorem Tree.depth_pos (tree : Tree) : 0 < tree.depth := by
  cases tree with
  | group connective children =>
    rw [Tree.depth]
    omega
  | leaf field condition => exact Nat.one_pos

theorem Tree.add_greatestDepth_le_iff {level bound : Nat} {trees : List Tree}
    (nonempty : trees ≠ []) :
    level + Tree.greatestDepth trees ≤ bound ↔ ∀ tree ∈ trees, level + tree.depth ≤ bound := by
  induction trees with
  | nil => exact absurd rfl nonempty
  | cons tree rest inductionHypothesis =>
    rw [Tree.greatestDepth]
    by_cases last : rest = []
    · subst last
      simp [Tree.greatestDepth]
    · rw [List.forall_mem_cons, ← inductionHypothesis last]
      omega

/-- Whether a tree that was read on a level keeps above a limit. -/
def FitsAt (limit level : Nat) (tree : Tree) : Prop :=
  level + tree.depth ≤ limit + 1

theorem FitsAt.level_le {limit level : Nat} {tree : Tree} (fitting : FitsAt limit level tree) :
    level ≤ limit := by
  have positive := tree.depth_pos
  unfold FitsAt at fitting
  omega

@[simp]
theorem fitsAt_leaf {limit level : Nat} {field : String} {condition : Condition} :
    FitsAt limit level (.leaf field condition) ↔ level ≤ limit := by
  simp only [FitsAt, Tree.depth]
  omega

theorem fitsAt_group {limit level : Nat} {connective : Connective} {children : List Tree}
    (nonempty : children ≠ []) :
    FitsAt limit level (.group connective children) ↔
      ∀ child ∈ children, FitsAt limit (level + 1) child := by
  unfold FitsAt
  rw [Tree.depth, ← Nat.add_assoc, Tree.add_greatestDepth_le_iff nonempty]

theorem fitsAt_conjunction {limit level : Nat} {trees : List Tree} (several : 1 < trees.length) :
    FitsAt limit level (Tree.conjunction trees) ↔
      ∀ tree ∈ trees, FitsAt limit (level + 1) tree := by
  match trees with
  | [] => simp at several
  | [_] => simp at several
  | _ :: _ :: _ => exact fitsAt_group (List.cons_ne_nil _ _)

/-! ### Two readings of one document -/

/-- How the outcome with a limit (the second one) compares with the outcome with a larger limit
(the first one): it is the same, and then a value fits; or it is the refusal of a node, and then
no value that fits was there to be read. -/
inductive Cut (limit : Nat) (fits : α → Prop) : Except Fault α → Except Fault α → Prop where
  | kept (value : α) (fitting : fits value) : Cut limit fits (.ok value) (.ok value)
  | failed (fault : Fault) : Cut limit fits (.error fault) (.error fault)
  | refused (wide : Except Fault α) (path : Path) (unfit : ∀ value, wide = .ok value → ¬ fits value) :
    Cut limit fits wide (.error ⟨.tooDeep limit, path⟩)

namespace Cut

variable {limit : Nat} {fits : α → Prop} {wide narrow : Except Fault α}

/-- A step that does not look at levels is the same with both limits. -/
theorem same (outcome : Except Fault α) (fitting : ∀ value, outcome = .ok value → fits value) :
    Cut limit fits outcome outcome := by
  cases outcome with
  | error fault => exact .failed fault
  | ok value => exact .kept value (fitting value rfl)

/-- Two steps one after the other. What the second step makes out of an unfit value must be
unfit, for the smaller limit has refused it already. -/
theorem bind {fitsNext : β → Prop} {wideNext narrowNext : α → Except Fault β}
    (first : Cut limit fits wide narrow)
    (next : ∀ value, wide = .ok value → fits value →
      Cut limit fitsNext (wideNext value) (narrowNext value))
    (unfit : ∀ value result, wide = .ok value → wideNext value = .ok result →
      fitsNext result → fits value) :
    Cut limit fitsNext (wide.bind wideNext) (narrow.bind narrowNext) := by
  cases first with
  | kept value fitting => exact next value rfl fitting
  | failed fault => exact .failed fault
  | refused _ path tooTall =>
    refine .refused _ path fun result outcome fitting => ?_
    obtain ⟨value, read, made⟩ := bind_eq_ok_iff.mp outcome
    exact tooTall value read (unfit value result read made fitting)

theorem map {fitsNext : β → Prop} (function : α → β) (first : Cut limit fits wide narrow)
    (agree : ∀ value, wide = .ok value → (fitsNext (function value) ↔ fits value)) :
    Cut limit fitsNext (wide.map function) (narrow.map function) := by
  cases first with
  | kept value fitting => exact .kept _ ((agree value rfl).mpr fitting)
  | failed fault => exact .failed fault
  | refused _ path tooTall =>
    refine .refused _ path fun result outcome fitting => ?_
    obtain ⟨value, read, rfl⟩ := map_eq_ok_iff.mp outcome
    exact tooTall value read ((agree value read).mp fitting)

/-- A walk along a list: all of its trees have to fit. -/
theorem cons {fits : α → Prop} {wide narrow : Except Fault α}
    {wideRest narrowRest : Except Fault (List α)} (first : Cut limit fits wide narrow)
    (rest : Cut limit (∀ value ∈ ·, fits value) wideRest narrowRest) :
    Cut limit (∀ value ∈ ·, fits value) (wide.bind fun value => wideRest.map (value :: ·))
      (narrow.bind fun value => narrowRest.map (value :: ·)) := by
  refine first.bind (fun value _ fitting => ?_) fun value result _ made fitting => ?_
  · refine rest.map (value :: ·) fun others _ => ?_
    rw [List.forall_mem_cons, and_iff_right fitting]
  · obtain ⟨others, _, rfl⟩ := map_eq_ok_iff.mp made
    exact fitting value List.mem_cons_self

/-! ### What comes of it -/

theorem same_or_refused (cut : Cut limit fits wide narrow) :
    narrow = wide ∨ ∃ path, narrow = .error ⟨.tooDeep limit, path⟩ := by
  cases cut with
  | kept value _ => exact Or.inl rfl
  | failed fault => exact Or.inl rfl
  | refused _ path _ => exact Or.inr ⟨path, rfl⟩

theorem eq_ok_of_fits {value : α} (cut : Cut limit fits (.ok value) narrow)
    (fitting : fits value) : narrow = .ok value := by
  cases cut with
  | kept _ _ => rfl
  | refused _ path unfit => exact absurd fitting (unfit value rfl)

theorem refused_of_not_fits {value : α} (cut : Cut limit fits (.ok value) narrow)
    (unfit : ¬ fits value) : ∃ path, narrow = .error ⟨.tooDeep limit, path⟩ := by
  cases cut with
  | kept _ fitting => exact absurd fitting unfit
  | refused _ path _ => exact ⟨path, rfl⟩

end Cut

namespace Reader

/-- The same reader with another limit. -/
def withLimit (limit : Nat) (reader : Reader) : Reader :=
  { reader with limit := limit }

variable {reader : Reader} {limit : Nat}

/-! ### What does not depend on the limit -/

@[simp]
theorem resolve_withLimit (path : Path) (key : String) :
    (reader.withLimit limit).resolve path key = reader.resolve path key := rfl

@[simp]
theorem resolveLogical_withLimit (path : Path) (key : String) :
    (reader.withLimit limit).resolveLogical path key = reader.resolveLogical path key := rfl

@[simp]
theorem conditionOf_withLimit (path : Path) (field key : String) (operator : Operator)
    (document : Json) :
    (reader.withLimit limit).conditionOf path field key operator document =
      reader.conditionOf path field key operator document := rfl

@[simp]
theorem comparedOperand_withLimit (path : Path) (field : String) (document : Json) :
    (reader.withLimit limit).comparedOperand path field document =
      reader.comparedOperand path field document := rfl

/-! ### Levels and leaves -/

theorem cut_checkLevel (le : limit ≤ reader.limit) (path : Path) (level : Nat) :
    Cut limit (fun _ => level ≤ limit) (reader.checkLevel path level)
      ((reader.withLimit limit).checkLevel path level) := by
  by_cases shallow : level ≤ limit
  · have wide : reader.checkLevel path level = .ok () := if_pos (Nat.le_trans shallow le)
    have narrow : (reader.withLimit limit).checkLevel path level = .ok () := if_pos shallow
    rw [wide, narrow]
    exact .kept () shallow
  · have narrow : (reader.withLimit limit).checkLevel path level =
        .error ⟨.tooDeep limit, path⟩ := if_neg shallow
    rw [narrow]
    exact .refused _ path fun _ _ => shallow

theorem cut_entryLevel (le : limit ≤ reader.limit) (path : Path) (level : Nat)
    (members : List (String × Json)) :
    Cut limit (fun _ => level ≤ limit ∨ members.length = 1) (reader.entryLevel path level members)
      ((reader.withLimit limit).entryLevel path level members) := by
  match members with
  | [] => exact .failed _
  | [_] => exact .kept level (Or.inr rfl)
  | _ :: _ :: _ =>
    refine (cut_checkLevel le path level).map (fun _ => level + 1) fun _ _ => ?_
    simp

/-- A leaf stands on the level that it is read on. -/
theorem cut_leaf (le : limit ≤ reader.limit) (path : Path) (level : Nat) (field : String)
    (outcome : Except Fault Condition) :
    Cut limit (FitsAt limit level)
      ((reader.checkLevel path level).bind fun _ => outcome.map (Tree.leaf field))
      (((reader.withLimit limit).checkLevel path level).bind fun _ =>
        outcome.map (Tree.leaf field)) := by
  refine (cut_checkLevel le path level).bind (fun _ _ shallow => ?_)
    fun _ tree _ _ fitting => fitting.level_le
  refine Cut.same _ fun tree made => ?_
  obtain ⟨condition, _, rfl⟩ := map_eq_ok_iff.mp made
  exact fitsAt_leaf.mpr shallow

theorem cut_readCondition (le : limit ≤ reader.limit) (path : Path) (level : Nat)
    (field key : String) (document : Json) :
    Cut limit (FitsAt limit level) (reader.readCondition path level field key document)
      ((reader.withLimit limit).readCondition path level field key document) := by
  rw [readCondition_eq, readCondition_eq, resolve_withLimit]
  cases reader.resolve path key with
  | error fault => exact cut_leaf le path level field (.error fault)
  | ok operator =>
    simp only [conditionOf_withLimit]
    exact cut_leaf le path level field (reader.conditionOf path field key operator document)

theorem cut_readEquality (le : limit ≤ reader.limit) (path : Path) (level : Nat)
    (field : String) (document : Json) :
    Cut limit (FitsAt limit level) (reader.readEquality path level field document)
      ((reader.withLimit limit).readEquality path level field document) := by
  rw [readEquality_eq_compareWith, readEquality_eq_compareWith, comparedOperand_withLimit]
  exact cut_leaf le path level field
    ((reader.comparedOperand path field document).bind fun value =>
      (compareWith .eq value).mapError (OperandFault.atPath path))

/-! ### Mappings and lists -/

/-- The step of a mapping: what holds of the trees of its entries holds of the tree that it
becomes. -/
theorem cut_mapping (le : limit ≤ reader.limit) (path : Path) (level : Nat)
    (members : List (String × Json)) {wide narrow : Nat → Except Fault (List Tree)}
    (entries : ∀ inner, Cut limit (∀ tree ∈ ·, FitsAt limit inner tree) (wide inner) (narrow inner))
    (length : ∀ inner trees, wide inner = .ok trees → trees.length = members.length) :
    Cut limit (FitsAt limit level)
      ((reader.entryLevel path level members).bind fun inner =>
        (wide inner).map Tree.conjunction)
      (((reader.withLimit limit).entryLevel path level members).bind fun inner =>
        (narrow inner).map Tree.conjunction) := by
  refine (cut_entryLevel le path level members).bind (fun inner found _ => ?_)
    fun _ tree _ _ fitting => Or.inl fitting.level_le
  refine (entries inner).map Tree.conjunction fun trees read => ?_
  have count := length inner trees read
  rcases reader.entryLevel_cases found with ⟨single, rfl⟩ | ⟨several, rfl⟩
  · obtain ⟨tree, rfl⟩ := List.length_eq_one_iff.mp (count.trans single)
    rw [List.forall_mem_singleton]
    rfl
  · exact fitsAt_conjunction (by omega)

/-- A group and its children; they sit on the next level. -/
theorem cut_group (le : limit ≤ reader.limit) (path : Path) (level : Nat) (connective : Connective)
    {wide narrow : Except Fault (List Tree)}
    (children : Cut limit (∀ tree ∈ ·, FitsAt limit (level + 1) tree) wide narrow)
    (nonempty : ∀ trees, wide = .ok trees → trees ≠ []) :
    Cut limit (FitsAt limit level)
      ((reader.checkLevel path level).bind fun _ => wide.map (Tree.group connective))
      (((reader.withLimit limit).checkLevel path level).bind fun _ =>
        narrow.map (Tree.group connective)) := by
  refine (cut_checkLevel le path level).bind (fun _ _ _ => ?_)
    fun _ tree _ _ fitting => fitting.level_le
  exact children.map (Tree.group connective) fun trees read => fitsAt_group (nonempty trees read)

theorem cut_refused (le : limit ≤ reader.limit) (path : Path) (level : Nat) (fault : Fault) :
    Cut limit (FitsAt limit level) ((reader.checkLevel path level).bind fun _ => .error fault)
      (((reader.withLimit limit).checkLevel path level).bind fun _ => .error fault) :=
  (cut_checkLevel le path level).bind (fun _ _ _ => .failed fault)
    fun _ _ _ _ fitting => fitting.level_le

/-! ### Filters -/

/-- Readings with the larger limit and with the smaller one, side by side. -/
theorem alongside_withLimit (le : limit ≤ reader.limit) :
    Alongside reader (reader.withLimit limit) (fun level => Cut limit (FitsAt limit level))
      (fun level => Cut limit (∀ tree ∈ ·, FitsAt limit level tree)) where
  resolveLogical := resolveLogical_withLimit
  condition := cut_readCondition le
  equality := cut_readEquality le
  malformed _ fault := .failed fault
  refused := cut_refused le
  nil _ := .kept [] (by simp)
  cons _ head tail := head.cons tail
  mapping path level members entries := cut_mapping le path level members entries
  group path level connective children := cut_group le path level connective children

theorem cut_read (le : limit ≤ reader.limit) (document : Json) :
    Cut limit (FitsAt limit 1) (reader.read document)
      ((reader.withLimit limit).read document) :=
  (alongside_withLimit le).read document

@[simp]
theorem fitsAt_root {tree : Tree} : FitsAt limit 1 tree ↔ tree.depth ≤ limit := by
  unfold FitsAt
  omega

/-- A tree is no deeper than the limit that it was read with. -/
theorem depth_le_of_read {document : Json} {tree : Tree} (read : reader.read document = .ok tree) :
    tree.depth ≤ reader.limit := by
  have cut := cut_read (Nat.le_refl reader.limit) document
  rw [show reader.withLimit reader.limit = reader from rfl, read] at cut
  refine Decidable.byContradiction fun tall => ?_
  obtain ⟨path, refused⟩ := cut.refused_of_not_fits (mt fitsAt_root.mp tall)
  cases refused

/-- A smaller limit changes nothing but that it refuses the filters whose trees are too tall for
it. Where the larger limit finds a fault, the smaller one finds the same or refuses a node. -/
theorem read_withLimit (le : limit ≤ reader.limit) (document : Json) :
    ((reader.withLimit limit).read document = reader.read document ∨
        ∃ path, (reader.withLimit limit).read document = .error ⟨.tooDeep limit, path⟩) ∧
      ∀ tree, reader.read document = .ok tree →
        tree.depth ≤ reader.limit ∧
          (tree.depth ≤ limit → (reader.withLimit limit).read document = .ok tree) ∧
          (limit < tree.depth →
            ∃ path, (reader.withLimit limit).read document = .error ⟨.tooDeep limit, path⟩) := by
  have cut := cut_read le document
  refine ⟨cut.same_or_refused, fun tree read => ⟨depth_le_of_read read, ?_, ?_⟩⟩
  · intro fitting
    rw [read] at cut
    exact cut.eq_ok_of_fits (fitsAt_root.mpr fitting)
  · intro tall
    rw [read] at cut
    exact cut.refused_of_not_fits (mt fitsAt_root.mp (Nat.not_le.mpr tall))

/-- Two entries in one condition of a list: the tree has three levels, of which a limit of two
lets no more through than the group of the list and the implicit group below it. -/
theorem standard_refuses_entries_below_two :
    2 ≤ Reader.standard.limit ∧
      ∃ path, (Reader.standard.withLimit 2).read
        (.mapping [("@or", .list [.mapping [("a", .bool true), ("b", .bool false)]])]) =
          .error ⟨.tooDeep 2, path⟩ := by
  have read : Reader.standard.read
      (.mapping [("@or", .list [.mapping [("a", .bool true), ("b", .bool false)]])]) =
        .ok (.group .or [.group .and [.leaf "a" (.compare .eq (.bool true)),
          .leaf "b" (.compare .eq (.bool false))]]) := by rfl
  exact ⟨by decide, ((read_withLimit (by decide) _).2 _ read).2.2 (by decide)⟩

end Reader

end Sieve.Filter
