/-
This file reads queries back, by rules that know documents only, and proves that a query
means what the filter means that it was rendered from.

A query is a mapping of one key. Under `bool` there is a mapping of one clause; any other
key says what is asked of one field. Every place of a query is read in this one way, the
whole as well as what stands in a clause, so a field may be named like any word of the
query language: names of fields are only ever met one level below such a word.

What a query stands for is left open. Once it is known what is asked of single fields
stands for, and what clauses make out of the queries in them, every query stands for
something; whether it holds is one case of this.
-/

import Sieve.Proofs.Elastic.Rendering
import Sieve.Proofs.Filter.Meaning

namespace Sieve.Elastic

open Sieve.Filter (Comparison Condition Connective Tree)

variable {α : Type}

/-! ### Queries on one field -/

/-- What a query can ask of one field. -/
inductive FieldQuery where
  | term (field : String) (operand : Json)
  | range (field : String) (bound : Comparison) (operand : Json)
  | existence (field : String)
  | regexp (field pattern : String)

/-- The bound of a range that a word names. -/
def bound? : String → Option Comparison
  | "gt" => some .gt
  | "gte" => some .gte
  | "lt" => some .lt
  | "lte" => some .lte
  | _ => none

def rangeQuery? (field : String) : Json → Option FieldQuery
  | .mapping [(word, operand)] => (bound? word).map fun bound => .range field bound operand
  | _ => none

def existsQuery? : String → Json → Option FieldQuery
  | "field", .string field => some (.existence field)
  | _, _ => none

def regexpQuery? (field : String) : Json → Option FieldQuery
  | .mapping [("value", .string pattern), ("case_insensitive", .bool true)] =>
    some (.regexp field pattern)
  | _ => none

/-- What is asked under a word of the query language; a field is named in the one member that
stands there. -/
def fieldQuery? (word : String) : Json → Option FieldQuery
  | .mapping [(key, document)] =>
    match word with
    | "term" => some (.term key document)
    | "range" => rangeQuery? key document
    | "exists" => existsQuery? key document
    | "regexp" => regexpQuery? key document
    | _ => none
  | _ => none

/-! ### Queries -/

/-- The connective of the queries in a list under a word. -/
def connective? : String → Option Connective
  | "must" => some .and
  | "should" => some .or
  | "must_not" => some .nor
  | _ => none

/-- What queries stand for: those on one field, those with a list of queries in their clause, and
those with a single query that must not hold. -/
structure Interpretation (α : Type) where
  field : FieldQuery → α
  clause : Connective → List α → α
  negation : α → α

namespace Interpretation

variable (interpretation : Interpretation α)

mutual

/-- What a query stands for; a document of any other form stands for nothing. -/
def query? : Json → Option α
  | .mapping members => members? members
  | _ => none

def members? : List (String × Json) → Option α
  | [(word, document)] =>
    if word = "bool" then bool? document
    else (fieldQuery? word document).map interpretation.field
  | _ => none

/-- What the mapping under `bool` stands for. -/
def bool? : Json → Option α
  | .mapping [(word, document)] => clause? word document
  | _ => none

/-- What a clause stands for: of several queries, or of one that must not hold. -/
def clause? (word : String) : Json → Option α
  | .list queries =>
    (connective? word).bind fun connective =>
      (queries? queries).map (interpretation.clause connective)
  | .mapping members =>
    if word = "must_not" then (members? members).map interpretation.negation else none
  | _ => none

def queries? : List Json → Option (List α)
  | [] => some []
  | query :: rest =>
    (query? query).bind fun value => (queries? rest).map (value :: ·)

end

/-! ### Values of filters -/

/-- A value for every filter that goes along with what queries stand for: the query of a condition
stands for the value of its leaf, and a group has the value of its clause. -/
structure Agrees (value : Tree → α) : Prop where
  leaf : ∀ field condition query, leafQuery field condition = .ok query →
    interpretation.query? query = some (value (.leaf field condition))
  group : ∀ connective children,
    value (.group connective children) = interpretation.clause connective (children.map value)

@[simp]
theorem connective?_clauseKey (connective : Connective) :
    connective? (clauseKey connective) = some connective := by
  cases connective <;> rfl

theorem clause?_clauseKey (connective : Connective) (queries : List Json) :
    interpretation.clause? (clauseKey connective) (.list queries) =
      (interpretation.queries? queries).map (interpretation.clause connective) := by
  simp [clause?]

@[simp]
theorem query?_bool (word : String) (document : Json) :
    interpretation.query? (single "bool" (single word document)) =
      interpretation.clause? word document := by
  rw [single, query?, members?, if_pos rfl, single, bool?]

variable {interpretation} {value : Tree → α}

mutual

/-- The query of a filter stands for its value, as a child of a group and as a whole. -/
theorem Agrees.query?_wrap (agrees : interpretation.Agrees value) : (tree : Tree) → {query : Json} →
    render tree = .ok query → interpretation.query? (wrap tree query) = some (value tree)
  | .leaf field condition, query, rendered => by
    rw [render] at rendered
    exact agrees.leaf field condition query rendered
  | .group connective [], query, rendered => by cases rendered
  | .group connective (child :: rest), query, rendered => by
    rw [render_group connective (List.cons_ne_nil child rest)] at rendered
    obtain ⟨queries, each, rfl⟩ := map_eq_ok_iff.mp rendered
    show interpretation.query? (single "bool" (single (clauseKey connective) (.list queries))) = _
    rw [query?_bool, clause?_clauseKey, agrees.queries?_renderChildren (child :: rest) each,
      agrees.group, Option.map_some]

theorem Agrees.queries?_renderChildren (agrees : interpretation.Agrees value) :
    (trees : List Tree) → {queries : List Json} → renderChildren trees = .ok queries →
    interpretation.queries? queries = some (trees.map value)
  | [], queries, rendered => by
    cases rendered
    rfl
  | tree :: rest, queries, rendered => by
    rw [renderChildren_cons] at rendered
    obtain ⟨_, others, head, tail, rfl⟩ := bind_cons_eq_ok_iff.mp rendered
    obtain ⟨query, made, rfl⟩ := map_eq_ok_iff.mp head
    rw [queries?, agrees.query?_wrap tree made, agrees.queries?_renderChildren rest tail,
      Option.bind_some, Option.map_some, List.map_cons]

end

end Interpretation

theorem compileQuery_eq_ok_iff {limit : Nat} {tree : Tree} {whole : Json} :
    compileQuery limit tree = .ok whole ↔
      tree.depth ≤ limit ∧ (render tree).map (wrap tree) = .ok whole := by
  unfold compileQuery compile Tree.checkDepth
  by_cases shallow : tree.depth ≤ limit
  · rw [if_pos shallow, and_iff_right shallow]
  · rw [if_neg shallow]
    constructor
    · intro refused
      cases refused
    · intro both
      exact absurd both.1 shallow

/-! ### Whether a query holds -/

/-- Whether queries hold, once it is known what holds of single fields: of the queries in a clause all
have to hold, one at least, or none. -/
def Interpretation.truth (meaning : FieldQuery → Bool) : Interpretation Bool where
  field := meaning
  clause
    | .and, truths => truths.all id
    | .or, truths => truths.any id
    | .nor, truths => !truths.any id
  negation := not

/-- Whether a query holds that asks a field for the document form of an operand. -/
def asks (meaning : FieldQuery → Bool) (query : Json → FieldQuery) (operand : Value) : Bool :=
  operand.toJson?.any fun document => meaning (query document)

/-- Whether a condition holds on a field. An unequal and a missing value are the opposites of an equal
and a present one. -/
def meets (meaning : FieldQuery → Bool) (field : String) : Condition → Bool
  | .compare .eq operand => asks meaning (.term field) operand
  | .compare .ne operand => !asks meaning (.term field) operand
  | .compare comparison operand => asks meaning (.range field comparison) operand
  | .present true => meaning (.existence field)
  | .present false => !meaning (.existence field)
  | .matching pattern => meaning (.regexp field pattern)

variable {meaning : FieldQuery → Bool}

@[simp]
theorem operandJson_eq_ok_iff {operand : Value} {document : Json} :
    operandJson operand = .ok document ↔ operand.toJson? = some document := by
  unfold operandJson
  cases operand.toJson? with
  | none => simp
  | some written => simp

theorem asks_of_toJson? {operand : Value} {document : Json} (query : Json → FieldQuery)
    (written : operand.toJson? = some document) :
    asks meaning query operand = meaning (query document) := by
  rw [asks, written, Option.any_some]

theorem query?_leafQuery_compare {field : String} {comparison : Comparison} {operand : Value}
    {query : Json} (rendered : leafQuery field (.compare comparison operand) = .ok query) :
    (Interpretation.truth meaning).query? query =
      some (meets meaning field (.compare comparison operand)) := by
  cases comparison with
  | eq =>
    obtain ⟨document, made, rfl⟩ := map_eq_ok_iff.mp rendered
    rw [meets, asks_of_toJson? _ (operandJson_eq_ok_iff.mp made)]
    rfl
  | ne =>
    obtain ⟨document, made, rfl⟩ := map_eq_ok_iff.mp rendered
    rw [meets, asks_of_toJson? _ (operandJson_eq_ok_iff.mp made)]
    show some (!(meaning (.term field document) || false)) = _
    rw [Bool.or_false]
  | gt | gte | lt | lte =>
    obtain ⟨document, made, rfl⟩ := map_eq_ok_iff.mp rendered
    show _ = some (asks meaning _ operand)
    rw [asks_of_toJson? _ (operandJson_eq_ok_iff.mp made)]
    rfl

/-- The query of a condition holds where the condition is met. -/
theorem query?_leafQuery {field : String} {condition : Condition} {query : Json}
    (rendered : leafQuery field condition = .ok query) :
    (Interpretation.truth meaning).query? query = some (meets meaning field condition) := by
  cases condition with
  | compare comparison operand => exact query?_leafQuery_compare rendered
  | present wanted =>
    cases wanted with
    | true =>
      cases rendered
      rfl
    | false =>
      cases rendered
      rfl
  | matching pattern =>
    cases rendered
    rfl

theorem holds_group (connective : Connective) (children : List Tree) :
    Tree.holds (meets meaning) (.group connective children) =
      (Interpretation.truth meaning).clause connective
        (children.map (Tree.holds (meets meaning))) := by
  cases connective with
  | and =>
    show Tree.allHold (meets meaning) children =
      (children.map (Tree.holds (meets meaning))).all id
    simp
  | or =>
    show Tree.someHold (meets meaning) children =
      (children.map (Tree.holds (meets meaning))).any id
    simp
  | nor =>
    show (!Tree.someHold (meets meaning) children) =
      !(children.map (Tree.holds (meets meaning))).any id
    simp

/-- Holding goes along with queries. -/
theorem agrees_truth : (Interpretation.truth meaning).Agrees (Tree.holds (meets meaning)) where
  leaf _ _ _ rendered := query?_leafQuery rendered
  group := holds_group

/-- The query of a filter holds exactly where the filter does, whatever holds of single fields. -/
theorem compileQuery_means_filter {limit : Nat} {tree : Tree} {query : Json}
    (compiled : compileQuery limit tree = .ok query) (meaning : FieldQuery → Bool) :
    (Interpretation.truth meaning).query? query = some (tree.holds (meets meaning)) := by
  obtain ⟨_, whole⟩ := compileQuery_eq_ok_iff.mp compiled
  obtain ⟨rendered, made, rfl⟩ := map_eq_ok_iff.mp whole
  exact agrees_truth.query?_wrap tree made

/-- Fields that are named like words of the query language are read as fields, and a negation is one
in each of its three forms: the filter holds where its first two fields have what they deny. -/
theorem words_name_fields :
    ∃ query,
      compileQuery 3 (.group .nor [.leaf "bool" (.compare .ne (.bool true)),
        .group .or [.leaf "must_not" (.present false), .leaf "term" (.matching "x")]]) = .ok query ∧
      (Interpretation.truth fun asked =>
        match asked with
        | .term field _ => field == "bool"
        | .existence field => field == "must_not"
        | _ => false).query? query = some true ∧
      (Interpretation.truth fun _ => false).query? query = some false := by
  have compiled : compileQuery 3 (.group .nor [.leaf "bool" (.compare .ne (.bool true)),
      .group .or [.leaf "must_not" (.present false), .leaf "term" (.matching "x")]]) =
        .ok _ := rfl
  exact ⟨_, compiled, (compileQuery_means_filter compiled _).trans (by decide),
    (compileQuery_means_filter compiled _).trans (by decide)⟩

end Sieve.Elastic
