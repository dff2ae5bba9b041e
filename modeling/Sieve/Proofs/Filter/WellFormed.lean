/-
Trees that keep a rule: every group has a child, and the rule holds of every condition
and the field that it is on. The reader of filters is one that keeps rules. Where the
conditions that it makes out of operands keep a rule, so do the trees that it reads, as
the lists of logical operators are not empty and neither are mappings.

Two rules make a tree fit to be rendered. All floats have to be finite, for there is no
other number to write; and a comparison that asks for the order must not be with a list.
-/

import Sieve.Proofs.Filter.Alongside
import Sieve.Proofs.Value.Finite

namespace Sieve.Filter

/-- Every group has a child, and every leaf keeps a rule. -/
inductive Tree.WellFormed (rule : String → Condition → Prop) : Tree → Prop where
  | leaf {field : String} {condition : Condition} (kept : rule field condition) :
    WellFormed rule (.leaf field condition)
  | group {connective : Connective} {children : List Tree} (nonempty : children ≠ [])
    (each : ∀ child ∈ children, WellFormed rule child) : WellFormed rule (.group connective children)

theorem Tree.WellFormed.mono {rule weaker : String → Condition → Prop} {tree : Tree}
    (weaken : ∀ field condition, rule field condition → weaker field condition)
    (wellFormed : tree.WellFormed rule) : tree.WellFormed weaker := by
  induction wellFormed with
  | leaf kept => exact .leaf (weaken _ _ kept)
  | group nonempty _ inductionHypothesis => exact .group nonempty inductionHypothesis

theorem Tree.wellFormed_conjunction {rule : String → Condition → Prop} {trees : List Tree}
    (nonempty : trees ≠ []) (each : ∀ tree ∈ trees, tree.WellFormed rule) :
    (Tree.conjunction trees).WellFormed rule := by
  match trees with
  | [] => exact absurd rfl nonempty
  | [tree] => exact each tree List.mem_cons_self
  | _ :: _ :: _ => exact .group nonempty each

/-! ### What a reader builds -/

namespace Reader

/-- A rule that holds of every condition that a reader makes out of a document. -/
structure Keeps (reader : Reader) (rule : String → Condition → Prop) : Prop where
  condition : ∀ path field key operator document condition,
    reader.conditionOf path field key operator document = .ok condition → rule field condition
  equality : ∀ path field document operand,
    reader.comparedOperand path field document = .ok operand →
      rule field (.compare .eq operand)

variable {reader : Reader} {rule : String → Condition → Prop}

theorem Keeps.readCondition (keeps : reader.Keeps rule) {path : Path} {level : Nat}
    {field key : String} {document : Json} {tree : Tree}
    (read : reader.readCondition path level field key document = .ok tree) :
    tree.WellFormed rule := by
  rw [readCondition_eq] at read
  obtain ⟨_, _, resolved⟩ := bind_eq_ok_iff.mp read
  obtain ⟨operator, _, leaf⟩ := bind_eq_ok_iff.mp resolved
  obtain ⟨condition, made, rfl⟩ := map_eq_ok_iff.mp leaf
  exact .leaf (keeps.condition path field key operator document condition made)

theorem Keeps.readEquality (keeps : reader.Keeps rule) {path : Path} {level : Nat}
    {field : String} {document : Json} {tree : Tree}
    (read : reader.readEquality path level field document = .ok tree) : tree.WellFormed rule := by
  rw [readEquality_eq] at read
  obtain ⟨_, _, leaf⟩ := bind_eq_ok_iff.mp read
  obtain ⟨operand, compared, rfl⟩ := map_eq_ok_iff.mp leaf
  exact .leaf (keeps.equality path field document operand compared)

/-- The step of a mapping: its entries have trees, one at least, and these keep the rule. -/
theorem wellFormed_mapping {path : Path} {level : Nat} {members : List (String × Json)}
    {entries : Nat → Except Fault (List Tree)} {tree : Tree}
    (length : ∀ inner trees, entries inner = .ok trees → trees.length = members.length)
    (each : ∀ inner trees, entries inner = .ok trees → ∀ tree ∈ trees, tree.WellFormed rule)
    (read : (reader.entryLevel path level members).bind
      (fun inner => (entries inner).map Tree.conjunction) = .ok tree) :
    tree.WellFormed rule := by
  obtain ⟨inner, found, joined⟩ := bind_eq_ok_iff.mp read
  obtain ⟨trees, listed, rfl⟩ := map_eq_ok_iff.mp joined
  refine Tree.wellFormed_conjunction ?_ (each inner trees listed)
  have count := length inner trees listed
  rintro rfl
  rcases reader.entryLevel_cases found with ⟨single, _⟩ | ⟨several, _⟩
  · rw [← count] at single
    cases single
  · rw [← count] at several
    cases several

/-- A reading beside itself: whatever comes out of a step keeps the rule. -/
theorem Keeps.alongside (keeps : reader.Keeps rule) :
    Alongside reader reader
      (fun _ outcome _ => ∀ tree, outcome = .ok tree → tree.WellFormed rule)
      (fun _ outcome _ => ∀ trees, outcome = .ok trees → ∀ tree ∈ trees, tree.WellFormed rule) where
  resolveLogical _ _ := rfl
  condition _ _ _ _ _ _ read := keeps.readCondition read
  equality _ _ _ _ _ read := keeps.readEquality read
  malformed _ _ _ read := by cases read
  refused _ _ _ _ read := by
    obtain ⟨_, _, refused⟩ := bind_eq_ok_iff.mp read
    cases refused
  nil _ trees read := by
    cases read
    exact fun _ member => absurd member List.not_mem_nil
  cons _ head tail trees read := by
    obtain ⟨tree, others, first, rest, rfl⟩ := bind_cons_eq_ok_iff.mp read
    exact List.forall_mem_cons.mpr ⟨head tree first, tail others rest⟩
  mapping _ _ _ each length _ read := wellFormed_mapping length each read
  group _ _ _ each nonempty _ read := by
    obtain ⟨_, _, grouped⟩ := bind_eq_ok_iff.mp read
    obtain ⟨children, listed, rfl⟩ := map_eq_ok_iff.mp grouped
    exact .group (nonempty children listed) (each children listed)

/-- The trees that a reader builds keep every rule that its conditions keep. -/
theorem Keeps.read (keeps : reader.Keeps rule) {document : Json} {tree : Tree}
    (read : reader.read document = .ok tree) : tree.WellFormed rule :=
  keeps.alongside.read document tree read

end Reader

/-! ### Conditions that can be rendered -/

/-- Every float of the operand is finite. -/
def Condition.IsFinite : Condition → Prop
  | .compare _ operand => operand.isFinite = true
  | .present _ => True
  | .matching _ => True

/-- No list is asked for its place in an order. -/
def Condition.IsOrdered : Condition → Prop
  | .compare comparison (.list _) => comparison.isRange = false
  | _ => True

/-- A condition that every backend can render. -/
def Condition.IsRenderable (condition : Condition) : Prop :=
  condition.IsFinite ∧ condition.IsOrdered

/-- A tree that every backend can render, but for its depth. -/
def Tree.IsRenderable (tree : Tree) : Prop :=
  tree.WellFormed fun _ condition => condition.IsRenderable

/-- A comparison is made out of any operand that it can be ordered with. -/
theorem compareWith_eq_ok_iff {comparison : Comparison} {operand : Value} {condition : Condition} :
    compareWith comparison operand = .ok condition ↔
      .compare comparison operand = condition ∧ condition.IsOrdered := by
  cases operand with
  | list items =>
    rw [compareWith]
    cases ordered : comparison.isRange with
    | true =>
      constructor
      · intro outcome
        cases outcome
      · rintro ⟨rfl, unordered⟩
        cases ordered.symm.trans unordered
    | false =>
      constructor
      · intro outcome
        cases outcome
        exact ⟨rfl, ordered⟩
      · rintro ⟨rfl, _⟩
        rfl
  | bool _ | int _ | float _ | str _ | date _ | datetime _ | formula _ =>
    constructor
    · intro outcome
      cases outcome
      exact ⟨rfl, trivial⟩
    · rintro ⟨rfl, _⟩
      rfl

theorem isRenderable_of_compareWith {comparison : Comparison} {operand : Value}
    {condition : Condition} (finite : operand.isFinite = true)
    (made : compareWith comparison operand = .ok condition) : condition.IsRenderable := by
  obtain ⟨rfl, ordered⟩ := compareWith_eq_ok_iff.mp made
  exact ⟨finite, ordered⟩

theorem isRenderable_of_condition {operation : Operation} {operand : Value}
    {condition : Condition} (finite : operand.isFinite = true)
    (made : operation.condition operand = .ok condition) : condition.IsRenderable := by
  cases operation with
  | compare comparison => exact isRenderable_of_compareWith finite made
  | presence =>
    rw [Operation.condition] at made
    split at made
    · cases made
      exact ⟨trivial, trivial⟩
    · cases made
    · cases made
  | matching =>
    rw [Operation.condition] at made
    split at made
    · cases made
      exact ⟨trivial, trivial⟩
    · cases made
    · cases made

theorem isFinite_of_operand {path : Path} {document : Json} {value : Value}
    (read : Reader.operand path document = .ok value) : value.isFinite = true :=
  Value.isFinite_of_ofJson document (mapError_eq_ok_iff.mp read)

theorem isFinite_of_comparedOperand {reader : Reader} {path : Path} {field : String}
    {document : Json} {value : Value}
    (read : reader.comparedOperand path field document = .ok value) : value.isFinite = true := by
  unfold Reader.comparedOperand at read
  split at read
  · cases read
  · rename_i raw operand
    split at read
    · cases read
      exact isFinite_of_operand operand
    · exact Value.isFinite_of_coerceEach (fun _ => isFinite_of_operand operand)
        (mapError_eq_ok_iff.mp read)

theorem Reader.keeps_isRenderable (reader : Reader) :
    reader.Keeps fun _ condition => condition.IsRenderable where
  condition := by
    intro path field key operator document condition made
    unfold Reader.conditionOf at made
    split at made
    · cases made
    · obtain ⟨value, read, built⟩ := bind_eq_ok_iff.mp made
      refine isRenderable_of_condition ?_ (mapError_eq_ok_iff.mp built)
      unfold Reader.operatorOperand at read
      split at read
      · exact isFinite_of_comparedOperand read
      · exact isFinite_of_operand read
  equality := by
    intro path field document operand read
    refine ⟨isFinite_of_comparedOperand read, ?_⟩
    cases operand with
    | list items => rfl
    | _ => trivial

theorem Reader.isRenderable_of_read {reader : Reader} {document : Json} {tree : Tree}
    (read : reader.read document = .ok tree) : tree.IsRenderable :=
  reader.keeps_isRenderable.read read

end Sieve.Filter
