/-
This file says which filters are rendered to one query. An unequal value is asked for as the
negation of an equal one, which is also what a group of one child is rendered to of which
nothing may hold; and of an operand only its document form is left. Nothing else is lost.

The normal form of a filter is what is left of it. A query is a function of the normal form
that its filter has, and the normal form can be read back from the query. So the queries of
two filters are one exactly where their normal forms are.
-/

import Sieve.Proofs.Elastic.Meaning

namespace Sieve.Elastic

open Sieve.Filter (Comparison Condition Connective Tree)

/-! ### Normal forms -/

/-- A condition with the document form of its operand, if it has one. -/
inductive WrittenCondition where
  | compare (comparison : Comparison) (operand : Option Json)
  | present (wanted : Bool)
  | matching (pattern : String)

inductive Normal where
  | group (connective : Connective) (children : List Normal)
  | leaf (field : String) (condition : WrittenCondition)

def writtenCondition : Condition → WrittenCondition
  | .compare comparison operand => .compare comparison operand.toJson?
  | .present wanted => .present wanted
  | .matching pattern => .matching pattern

mutual

/-- The normal form of a filter. That a field is unequal to an operand is the group that denies the
equality, and operands have their document forms. -/
def normal : Tree → Normal
  | .leaf field (.compare .ne operand) =>
    .group .nor [.leaf field (.compare .eq operand.toJson?)]
  | .leaf field condition => .leaf field (writtenCondition condition)
  | .group connective children => .group connective (normals children)

def normals : List Tree → List Normal
  | [] => []
  | tree :: rest => normal tree :: normals rest

end

@[simp]
theorem normals_eq_map (trees : List Tree) : normals trees = trees.map normal := by
  induction trees with
  | nil => rfl
  | cons tree rest inductionHypothesis => rw [normals, List.map_cons, inductionHypothesis]

theorem normal_leaf {field : String} {condition : Condition}
    (plain : ∀ operand, condition ≠ .compare .ne operand) :
    normal (.leaf field condition) = .leaf field (writtenCondition condition) := by
  cases condition with
  | compare comparison operand =>
    cases comparison with
    | ne => exact absurd rfl (plain operand)
    | eq | gt | gte | lt | lte => rfl
  | present wanted => rfl
  | matching pattern => rfl

/-! ### From the normal form to the query -/

def WrittenCondition.query? (field : String) : WrittenCondition → Option Json
  | .compare .eq operand => operand.map (term field)
  | .compare comparison operand =>
    operand.map fun document => single "range" (single field (single comparison.name document))
  | .present true => some (existence field)
  | .present false => some (single "bool" (single "must_not" (existence field)))
  | .matching pattern =>
    some (single "regexp" (single field
      (.mapping [("value", .string pattern), ("case_insensitive", .bool true)])))

mutual

/-- The query of a normal form, if it has one: no group is empty, and every operand is there. -/
def Normal.query? : Normal → Option Json
  | .leaf field condition => condition.query? field
  | .group connective children =>
    if children.isEmpty then none
    else
      (Normal.queries? children).map fun queries =>
        single "bool" (single (clauseKey connective) (.list queries))

def Normal.queries? : List Normal → Option (List Json)
  | [] => some []
  | tree :: rest => (query? tree).bind fun query => (queries? rest).map (query :: ·)

end

@[simp]
theorem toOption_operandJson (operand : Value) :
    (operandJson operand).toOption = operand.toJson? := by
  unfold operandJson
  cases operand.toJson? with
  | none => rfl
  | some document => rfl

theorem toOption_leafQuery (field : String) (condition : Condition) :
    (leafQuery field condition).toOption = (normal (.leaf field condition)).query? := by
  cases condition with
  | compare comparison operand =>
    cases comparison with
    | eq | gt | gte | lt | lte =>
      show ((operandJson operand).map _).toOption = operand.toJson?.map _
      simp
    | ne =>
      show ((operandJson operand).map _).toOption = _
      rw [toOption_map, toOption_operandJson, normal]
      cases operand.toJson? with
      | none => rfl
      | some document => rfl
  | present wanted => cases wanted <;> rfl
  | matching pattern => rfl

mutual

/-- The query of a filter is a function of its normal form. -/
theorem toOption_render : (tree : Tree) →
    ((render tree).map (wrap tree)).toOption = (normal tree).query?
  | .leaf field condition => by
    rw [toOption_map, render, toOption_leafQuery]
    exact Option.map_id'
  | .group connective [] => rfl
  | .group connective (child :: rest) => by
    rw [render_group connective (List.cons_ne_nil child rest), toOption_map, toOption_map,
      toOption_renderChildren (child :: rest), Option.map_map]
    rfl

theorem toOption_renderChildren : (trees : List Tree) →
    (renderChildren trees).toOption = Normal.queries? (normals trees)
  | [] => rfl
  | tree :: rest => by
    rw [renderChildren_cons, normals, Normal.queries?, ← toOption_render tree,
      ← toOption_renderChildren rest]
    cases (render tree).map (wrap tree) with
    | error defect => rfl
    | ok query => exact toOption_map ..

end

/-- A filter within the limit has the query of its normal form. -/
theorem compileQuery_eq_ok_iff_normal {limit : Nat} {tree : Tree} {query : Json} :
    compileQuery limit tree = .ok query ↔
      tree.depth ≤ limit ∧ (normal tree).query? = some query := by
  rw [compileQuery_eq_ok_iff, ← toOption_render, toOption_eq_some_iff]

/-! ### From the query to the normal form -/

/-- A presence turned into its opposite; nothing else has a negation of its own. -/
def Normal.opposite : Normal → Normal
  | .leaf field (.present wanted) => .leaf field (.present (!wanted))
  | other => other

/-- The normal form that a query was made from. -/
def spelling : Interpretation Normal where
  field
    | .term field operand => .leaf field (.compare .eq (some operand))
    | .range field bound operand => .leaf field (.compare bound (some operand))
    | .existence field => .leaf field (.present true)
    | .regexp field pattern => .leaf field (.matching pattern)
  clause := .group
  negation := Normal.opposite

theorem spelling_leafQuery {field : String} {condition : Condition} {query : Json}
    (rendered : leafQuery field condition = .ok query) :
    spelling.query? query = some (normal (.leaf field condition)) := by
  cases condition with
  | compare comparison operand =>
    cases comparison with
    | eq | gt | gte | lt | lte =>
      obtain ⟨document, made, rfl⟩ := map_eq_ok_iff.mp rendered
      rw [normal_leaf (by simp), writtenCondition, operandJson_eq_ok_iff.mp made]
      rfl
    | ne =>
      obtain ⟨document, made, rfl⟩ := map_eq_ok_iff.mp rendered
      rw [normal, operandJson_eq_ok_iff.mp made]
      rfl
  | present wanted =>
    cases wanted with
    | true =>
      cases rendered
      rfl
    | false =>
      cases rendered
      rfl
  | matching pattern =>
    cases rendered
    rfl

/-- Normal forms go along with queries. -/
theorem agrees_spelling : spelling.Agrees normal where
  leaf _ _ _ rendered := spelling_leafQuery rendered
  group connective children := by
    rw [normal, normals_eq_map]
    rfl

theorem spelling_of_compileQuery {limit : Nat} {tree : Tree} {query : Json}
    (compiled : compileQuery limit tree = .ok query) :
    spelling.query? query = some (normal tree) := by
  obtain ⟨_, whole⟩ := compileQuery_eq_ok_iff.mp compiled
  obtain ⟨rendered, made, rfl⟩ := map_eq_ok_iff.mp whole
  exact agrees_spelling.query?_wrap tree made

/-! ### Filters with one query -/

/-- Two filters that differ only in how they deny that fields are equal to operands: as an unequal
value, or as a group of one child of which nothing may hold. -/
inductive Respelled : Tree → Tree → Prop
  | refl (tree : Tree) : Respelled tree tree
  | symm {first second : Tree} (respelled : Respelled first second) : Respelled second first
  | trans {first second third : Tree} (former : Respelled first second)
    (latter : Respelled second third) : Respelled first third
  | unequal (field : String) (operand : Value) :
    Respelled (.leaf field (.compare .ne operand))
      (.group .nor [.leaf field (.compare .eq operand)])
  | child {tree other : Tree} (connective : Connective) (before after : List Tree)
    (respelled : Respelled tree other) :
    Respelled (.group connective (before ++ tree :: after))
      (.group connective (before ++ other :: after))

theorem Respelled.normal_eq {first second : Tree} (respelled : Respelled first second) :
    normal first = normal second := by
  induction respelled with
  | refl tree => rfl
  | symm _ inductionHypothesis => exact inductionHypothesis.symm
  | trans _ _ former latter => exact former.trans latter
  | unequal field operand => rfl
  | child connective before after _ inductionHypothesis =>
    rw [normal, normal, normals_eq_map, normals_eq_map, List.map_append, List.map_append,
      List.map_cons, List.map_cons, inductionHypothesis]

/-- Two filters that have queries have the same query exactly where they have the same normal form; and
a filter may be respelled anywhere, if it does not get too deep. -/
theorem query_eq_iff_normal_eq {limit : Nat} {first second : Tree} {query other : Json}
    (compiled : compileQuery limit first = .ok query)
    (otherCompiled : compileQuery limit second = .ok other) :
    (query = other ↔ normal first = normal second) ∧
      ∀ respelled, Respelled first respelled → respelled.depth ≤ limit →
        compileQuery limit respelled = .ok query := by
  obtain ⟨_, made⟩ := compileQuery_eq_ok_iff_normal.mp compiled
  obtain ⟨_, otherMade⟩ := compileQuery_eq_ok_iff_normal.mp otherCompiled
  refine ⟨⟨?_, ?_⟩, ?_⟩
  · rintro rfl
    have read := spelling_of_compileQuery compiled
    rw [spelling_of_compileQuery otherCompiled] at read
    exact (Option.some.inj read).symm
  · intro same
    rw [same, otherMade] at made
    exact (Option.some.inj made).symm
  · intro respelled related shallow
    rw [related.normal_eq] at made
    exact compileQuery_eq_ok_iff_normal.mpr ⟨shallow, made⟩

/-- An unequal value has the query of the group that denies the equality, also inside another group; a
missing value does not have the query of the group that denies the presence. -/
theorem absence_is_no_denied_presence :
    (∃ query,
      compileQuery 3 (.group .or [.leaf "a" (.compare .ne (.bool true))]) = .ok query ∧
      compileQuery 3 (.group .or [.group .nor [.leaf "a" (.compare .eq (.bool true))]]) =
        .ok query) ∧
      ∃ query other,
        compileQuery 3 (.leaf "a" (.present false)) = .ok query ∧
        compileQuery 3 (.group .nor [.leaf "a" (.present true)]) = .ok other ∧ query ≠ other := by
  have unequal : compileQuery 3 (.group .or [.leaf "a" (.compare .ne (.bool true))]) =
      .ok _ := rfl
  have absent : compileQuery 3 (.leaf "a" (.present false)) = .ok _ := rfl
  have denied : compileQuery 3 (.group .nor [.leaf "a" (.present true)]) = .ok _ := rfl
  refine ⟨⟨_, unequal, ?_⟩, _, _, absent, denied, fun same => ?_⟩
  · exact (query_eq_iff_normal_eq unequal unequal).2 _
      (.child .or [] [] (.unequal "a" (.bool true))) (by decide)
  · cases (query_eq_iff_normal_eq absent denied).1.mp same

end Sieve.Elastic
