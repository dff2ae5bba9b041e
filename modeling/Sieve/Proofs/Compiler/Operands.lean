/-
The search engine and the databases get the same operands. A query carries its operands as
documents, in the places where it asks for fields; a statement has them as parameters. Both
are looked through here from left to right, next to the leaves of the filter, and each leaf
sends the same to both sides.

The two ways of writing operands have nothing in common: a query takes the document form of
an operand as a whole, while a list is spread over parameters of its own, and of the items in
it those that are lists again, as dates and instants, go by a text. That they agree is known
for one value at a time, and a leaf is a list of these at the most.
-/

import Sieve.Proofs.Elastic.Meaning
import Sieve.Proofs.Sql.Placeholders

namespace Sieve

open Sieve.Filter (Comparison Condition Tree)

/-! ### What a query asks -/

namespace Elastic

/-- The queries on single fields that are met in a query, first to last. -/
def Interpretation.asked : Interpretation (List FieldQuery) where
  field query := [query]
  clause _ queries := queries.flatten
  negation queries := queries

/-- What is asked of a field that is compared with a document. -/
def comparisonQuery (field : String) (comparison : Comparison) (document : Json) : FieldQuery :=
  if comparison.isRange then .range field comparison document else .term field document

/-- What the query of a condition asks of its field. -/
def askedBy (field : String) : Condition → FieldQuery
  | .compare comparison operand =>
    comparisonQuery field comparison (operand.toJson?.getD .null)
  | .present _ => .existence field
  | .matching pattern => .regexp field pattern

/-- What the leaves of a filter ask, from left to right. -/
def askedByLeaves (tree : Tree) : List FieldQuery :=
  tree.leaves.map fun leaf => askedBy leaf.1 leaf.2

theorem askedBy_compare {operand : Value} {document : Json} (field : String)
    (comparison : Comparison) (written : operand.toJson? = some document) :
    askedBy field (.compare comparison operand) = comparisonQuery field comparison document := by
  rw [askedBy, written, Option.getD_some]

theorem asked_leafQuery {field : String} {condition : Condition} {query : Json}
    (rendered : leafQuery field condition = .ok query) :
    Interpretation.asked.query? query = some [askedBy field condition] := by
  cases condition with
  | compare comparison operand =>
    cases comparison with
    | eq | ne | gt | gte | lt | lte =>
      obtain ⟨document, made, rfl⟩ := map_eq_ok_iff.mp rendered
      rw [askedBy_compare field _ (operandJson_eq_ok_iff.mp made)]
      rfl
  | present wanted =>
    cases wanted with
    | true | false =>
      cases rendered
      rfl
  | matching pattern =>
    cases rendered
    rfl

theorem flatten_map_askedByLeaves (children : List Tree) :
    (children.map askedByLeaves).flatten =
      (Tree.leavesOfEach children).map fun leaf => askedBy leaf.1 leaf.2 := by
  induction children with
  | nil => rfl
  | cons child rest inductionHypothesis =>
    rw [List.map_cons, List.flatten_cons, inductionHypothesis, Tree.leavesOfEach, List.map_append]
    rfl

/-- What is met in a query is what the leaves ask, in their order. -/
theorem agrees_asked : Interpretation.asked.Agrees askedByLeaves where
  leaf _ _ _ rendered := asked_leafQuery rendered
  group _ children := (flatten_map_askedByLeaves children).symm

end Elastic

/-! ### Values on both sides -/

/-- A value is sent as a document and as a parameter. The parameter of a list is the text of its
document; the parameter of any other value has this document itself. -/
inductive Value.SentAs : Value → Json × Sql.Parameter → Prop where
  | single {operand : Value} {document : Json} {parameter : Sql.Parameter}
    (single : operand.kind ≠ .list) (written : operand.toJson? = some document)
    (same : parameter.toJson = document) : SentAs operand (document, parameter)
  | list {items : List Value} {documents : List Json}
    (written : toJson? (.list items) = some (.list documents)) :
    SentAs (.list items) (.list documents, .string (Json.list documents).compact)

/-- What a leaf sends to both sides: the query on its field, and its parameters. The parameters of a
list are its items, one by one; a wish for presence has none, and a pattern may have the words
before it that a dialect needs to ignore the case of letters. -/
inductive Filter.SendsAlike :
    String × Condition → Elastic.FieldQuery × List Sql.Parameter → Prop where
  | single {field : String} {comparison : Comparison} {operand : Value} {document : Json}
    {parameter : Sql.Parameter} (single : operand.kind ≠ .list)
    (sent : operand.SentAs (document, parameter)) :
    SendsAlike (field, .compare comparison operand)
      (Elastic.comparisonQuery field comparison document, [parameter])
  | list {field : String} {comparison : Comparison} {items : List Value}
    {sent : List (Json × Sql.Parameter)} (unordered : comparison.isRange = false)
    (each : List.Forall₂ Value.SentAs items sent) :
    SendsAlike (field, .compare comparison (.list items))
      (.term field (.list (sent.map Prod.fst)), sent.map Prod.snd)
  | present (field : String) (wanted : Bool) :
    SendsAlike (field, .present wanted) (.existence field, [])
  | matching {field pattern text : String} (same : text = pattern ∨ text = "(?i)" ++ pattern) :
    SendsAlike (field, .matching pattern) (.regexp field pattern, [.string text])

namespace Sql

/-- A list that is bound as one parameter has a document form, and the parameter is its text. -/
theorem Parameter.sentAs_of_ofText {items : List Value} {parameter : Parameter}
    (made : ofText (.list items) = .ok parameter) :
    ∃ document, Value.toJson? (.list items) = some document ∧
      Value.SentAs (.list items) (document, parameter) := by
  have isSome : (Value.toJson? (.list items)).isSome = true := by
    rw [Value.isSome_toJson?]
    exact exists_ofText_iff_list.mp ⟨parameter, made⟩
  obtain ⟨document, written⟩ := Option.isSome_iff_exists.mp isSome
  obtain ⟨documents, _, rfl⟩ := Option.map_eq_some_iff.mp written
  have text : ofText (.list items) = .ok (.string (Json.list documents).compact) := by
    rw [ofText, Value.coerce, Value.convert?, Value.fromList, written]
    rfl
  cases made.symm.trans text
  exact ⟨_, written, .list written⟩

/-- Whatever is bound as a parameter has a document form, and is sent as both. -/
theorem Parameter.sentAs_of_ofValue {operand : Value} {parameter : Parameter}
    (made : ofValue operand = .ok parameter) :
    ∃ document, operand.toJson? = some document ∧ operand.SentAs (document, parameter) := by
  cases operand with
  | list items => exact sentAs_of_ofText made
  | float number =>
    rw [ofValue] at made
    split at made
    · rename_i finite
      cases made
      have written : Value.numberToJson? number = some (.float ⟨number, finite⟩) := dif_pos finite
      refine ⟨_, written, .single (of_decide_eq_true rfl) written ?_⟩
      rw [toJson, written, Option.getD_some]
    · cases made
  | bool _ | int _ | str _ | formula _ | date _ | datetime _ =>
    cases made
    exact ⟨_, rfl, .single (of_decide_eq_true rfl) rfl rfl⟩

/-- The items of a list are sent one by one, and the list as the list of their documents. -/
theorem Parameter.sentAs_of_ofValues {items : List Value} {parameters : List Parameter}
    (made : ofValues items = .ok parameters) :
    ∃ sent : List (Json × Parameter), Value.itemsToJson? items = some (sent.map Prod.fst) ∧
      sent.map Prod.snd = parameters ∧ List.Forall₂ Value.SentAs items sent := by
  rw [ofValues_eq_ok_iff] at made
  induction made with
  | nil => exact ⟨[], rfl, rfl, .nil⟩
  | @cons item parameter rest others head _ inductionHypothesis =>
    obtain ⟨document, written, first⟩ := sentAs_of_ofValue head
    obtain ⟨sent, writtenRest, rfl, each⟩ := inductionHypothesis
    refine ⟨(document, parameter) :: sent, ?_, rfl, .cons first each⟩
    rw [Value.itemsToJson?, written, writtenRest]
    rfl

/-! ### Leaves on both sides -/

theorem Dialect.pattern_cases (dialect : Dialect) (pattern : String) :
    dialect.pattern pattern = pattern ∨ dialect.pattern pattern = "(?i)" ++ pattern := by
  cases dialect with
  | sqlite | clickhouse => exact Or.inr rfl
  | postgres | duckdb => exact Or.inl rfl

/-- The parameters of a condition are sent beside what its query asks. -/
theorem Binding.sendsAlike {dialect : Dialect} {condition : Condition}
    {parameters : List Parameter} (field : String)
    (binding : Binding dialect condition parameters) :
    Filter.SendsAlike (field, condition) (Elastic.askedBy field condition, parameters) := by
  cases binding with
  | present wanted => exact .present field wanted
  | matching pattern => exact .matching (dialect.pattern_cases pattern)
  | list unordered made =>
    obtain ⟨sent, written, rfl, each⟩ := Parameter.sentAs_of_ofValues made
    rw [Elastic.askedBy_compare field _ (show Value.toJson? (.list _) = _ from
        Option.map_eq_some_iff.mpr ⟨_, written, rfl⟩), Elastic.comparisonQuery, unordered]
    exact .list unordered each
  | single comparison single made =>
    obtain ⟨document, written, sent⟩ := Parameter.sentAs_of_ofValue made
    rw [Elastic.askedBy_compare field comparison written]
    exact .single single sent

mutual

/-- The parameters that are added for a filter are sent by its leaves, beside what these ask. -/
theorem Lowered.sendsAlike {dialect : Dialect} {bound after : Parameters} {tree : Tree}
    {clause : Clause} : Lowered dialect bound tree clause after →
    ∃ sent : List (Elastic.FieldQuery × List Parameter),
      after = bound.append (sent.flatMap Prod.snd) ∧
      sent.map Prod.fst = tree.leaves.map (fun leaf => Elastic.askedBy leaf.1 leaf.2) ∧
      List.Forall₂ Filter.SendsAlike tree.leaves sent
  | .leaf binding => by
    refine ⟨[(_, _)], ?_, rfl, .cons (binding.sendsAlike _) .nil⟩
    rw [List.flatMap_singleton]
  | .group _ each => LoweredAll.sendsAlike each

theorem LoweredAll.sendsAlike {dialect : Dialect} {bound after : Parameters} {trees : List Tree}
    {parts : List Clause} : LoweredAll dialect bound trees parts after →
    ∃ sent : List (Elastic.FieldQuery × List Parameter),
      after = bound.append (sent.flatMap Prod.snd) ∧
      sent.map Prod.fst =
        (Tree.leavesOfEach trees).map (fun leaf => Elastic.askedBy leaf.1 leaf.2) ∧
      List.Forall₂ Filter.SendsAlike (Tree.leavesOfEach trees) sent
  | .nil => ⟨[], bound.append_nil.symm, rfl, .nil⟩
  | .cons head tail => by
    obtain ⟨first, rfl, askedFirst, eachFirst⟩ := head.sendsAlike
    obtain ⟨rest, rfl, askedRest, eachRest⟩ := LoweredAll.sendsAlike tail
    refine ⟨first ++ rest, ?_, ?_, ?_⟩
    · simp
    · rw [List.map_append, askedFirst, askedRest, Tree.leavesOfEach, List.map_append]
    · rw [Tree.leavesOfEach]
      exact List.rel_append eachFirst eachRest

end

end Sql

/-! ### Both compilers -/

namespace Compiler

/-- A filter that a database accepts is accepted by the search engine, with the same limit. What
its query asks of fields, first to last, and the parameters of its statement, first to last, are
both sent by the leaves of the filter from left to right, and each leaf sends the same to both. -/
theorem backends_get_same_operands {dialect : Sql.Dialect} {limit : Nat} {tree : Tree}
    {statement : Sql.Statement} (made : Sql.Statement.ofTree dialect limit tree = .ok statement) :
    ∃ query, Elastic.compile limit tree = .ok query ∧
      Elastic.compileQuery limit tree = .ok (Elastic.wrap tree query) ∧
      ∃ sent : List (Elastic.FieldQuery × List Sql.Parameter),
        Elastic.Interpretation.asked.query? (Elastic.wrap tree query) =
          some (sent.map Prod.fst) ∧
        statement.parameters.values = sent.flatMap Prod.snd ∧
        List.Forall₂ Filter.SendsAlike tree.leaves sent := by
  obtain ⟨shallow, lowered⟩ := Sql.ofTree_eq_ok_iff.mp made
  obtain ⟨query, compiled, whole⟩ := Elastic.exists_compileQuery shallow lowered.isRenderable
  obtain ⟨sent, parameters, asked, each⟩ := lowered.sendsAlike
  refine ⟨query, compiled, whole, sent, ?_, ?_, each⟩
  · obtain ⟨_, rendered⟩ := Elastic.compileQuery_eq_ok_iff.mp whole
    obtain ⟨inner, made, same⟩ := map_eq_ok_iff.mp rendered
    rw [← same, Elastic.agrees_asked.query?_wrap tree made, asked]
    rfl
  · rw [parameters]
    rfl

/-- A list in a list goes to a database by its text, and the search engine gets it as it is. -/
theorem nested_list_goes_by_text :
    let tree := Tree.group .or [.leaf "a" (.compare .ne (.list [.int 1, .list [.str "x"]])),
      .leaf "b" (.present false), .leaf "c" (.matching "^y")]
    ∃ statement query, ∃ sent : List (Elastic.FieldQuery × List Sql.Parameter),
      Sql.Statement.ofTree .sqlite 2 tree = .ok statement ∧
      statement.parameters.values = [.integer 1, .string "[\"x\"]", .string "(?i)^y"] ∧
      Elastic.compile 2 tree = .ok query ∧
      Elastic.Interpretation.asked.query? (Elastic.wrap tree query) = some (sent.map Prod.fst) ∧
      statement.parameters.values = sent.flatMap Prod.snd ∧
      List.Forall₂ Filter.SendsAlike tree.leaves sent := by
  intro tree
  have made : Sql.Statement.ofTree .sqlite 2 tree =
      .ok ⟨.joined .or [.notAmong "a" [1, 2], .present "b" false, .matching "c" 3],
        ⟨[.integer 1, .string "[\"x\"]", .string "(?i)^y"]⟩⟩ := rfl
  obtain ⟨query, compiled, _, sent, asked, parameters, each⟩ := backends_get_same_operands made
  exact ⟨_, query, sent, made, rfl, compiled, asked, parameters, each⟩

end Compiler

end Sieve
