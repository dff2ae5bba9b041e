/-
A database may know a second escape inside of quoted names: a backslash takes the character
after it along, so a quote after a backslash does not end the name. Names are quoted without a
thought for this, as only the quotes in them are doubled. This file says for which names that
is enough, in the dialect of the database that reads names so.

A name without a backslash is read as itself, and in a text whose names have none the two ways
of reading are one. With a backslash this never happens. An escape puts one character in place
of two, and the only character that is written with two is the quote; so if a name comes back
out of its quoted form, every escape stood for a quote, and then the name has no backslash.
-/

import Sieve.Proofs.Sql.Outline

namespace Sieve.Sql

open Sieve.Filter (Tree)

/-- Takes a text apart into lexemes, as `scan` does, but inside of a name a backslash and the
character after it stand together for one character, and end no name. -/
def scanEscaped (meaning : Char → Char) (quote : Char) :
    Standing → List Char → Option (List Lexeme)
  | .outside, [] => some []
  | .outside, character :: rest =>
    if character = quote then scanEscaped meaning quote (.inside []) rest
    else (scanEscaped meaning quote .outside rest).map (.symbol character :: ·)
  | .inside _, [] => none
  | .inside read, character :: rest =>
    if character = quote then scanEscaped meaning quote (.afterQuote read) rest
    else if character = '\\' then
      match rest with
      | [] => none
      | escaped :: rest => scanEscaped meaning quote (.inside (read ++ [meaning escaped])) rest
    else scanEscaped meaning quote (.inside (read ++ [character])) rest
  | .afterQuote read, [] => some [.name read]
  | .afterQuote read, character :: rest =>
    if character = quote then scanEscaped meaning quote (.inside (read ++ [quote])) rest
    else
      (scanEscaped meaning quote .outside rest).map fun lexemes =>
        .name read :: .symbol character :: lexemes

theorem scanEscaped_inside (meaning : Char → Char) (quote : Char) (read : List Char)
    (character : Char) (rest : List Char) :
    scanEscaped meaning quote (.inside read) (character :: rest) =
      if character = quote then scanEscaped meaning quote (.afterQuote read) rest
      else if character = '\\' then
        match rest with
        | [] => none
        | escaped :: rest => scanEscaped meaning quote (.inside (read ++ [meaning escaped])) rest
      else scanEscaped meaning quote (.inside (read ++ [character])) rest := by
  cases rest <;> rfl

/-! ### Where nothing is escaped -/

/-- What the scan has read of a name stays at the beginning of the name. -/
theorem exists_name_of_scan {quote : Char} {text read : List Char} {lexemes : List Lexeme}
    (scanned : scan quote (.inside read) text = some lexemes ∨
      scan quote (.afterQuote read) text = some lexemes) :
    ∃ contents ∈ lexemes.filterMap Lexeme.name?, read <+: contents := by
  induction text generalizing read lexemes with
  | nil =>
    rcases scanned with inside | afterQuote
    · cases inside
    · cases afterQuote
      exact ⟨read, List.mem_singleton_self read, List.prefix_refl read⟩
  | cons character rest inductionHypothesis =>
    have further : ∀ {next : List Char}, read <+: next →
        (scan quote (.inside next) rest = some lexemes ∨
          scan quote (.afterQuote next) rest = some lexemes) →
        ∃ contents ∈ lexemes.filterMap Lexeme.name?, read <+: contents := by
      intro next longer scanned
      obtain ⟨contents, member, begins⟩ := inductionHypothesis scanned
      exact ⟨contents, member, longer.trans begins⟩
    rcases scanned with inside | afterQuote
    · rw [scan] at inside
      split at inside
      · exact further (List.prefix_refl read) (Or.inr inside)
      · exact further (List.prefix_append read [character]) (Or.inl inside)
    · rw [scan] at afterQuote
      split at afterQuote
      · exact further (List.prefix_append read [quote]) (Or.inl afterQuote)
      · obtain ⟨others, _, rfl⟩ := Option.map_eq_some_iff.mp afterQuote
        exact ⟨read, List.mem_cons_self, List.prefix_refl read⟩

/-- Where no name has a backslash, both ways of reading a text come to the same. -/
theorem scanEscaped_of_scan (meaning : Char → Char) {quote : Char} {standing : Standing}
    {text : List Char} {lexemes : List Lexeme} (scanned : scan quote standing text = some lexemes)
    (plain : ∀ contents ∈ lexemes.filterMap Lexeme.name?, '\\' ∉ contents) :
    scanEscaped meaning quote standing text = some lexemes := by
  induction text generalizing standing lexemes with
  | nil =>
    cases standing with
    | outside | afterQuote read => exact scanned
    | inside read => cases scanned
  | cons character rest inductionHypothesis =>
    cases standing with
    | outside =>
      rw [scan] at scanned
      rw [scanEscaped]
      split at scanned
      · rw [if_pos ‹_›]
        exact inductionHypothesis scanned plain
      · obtain ⟨others, read, rfl⟩ := Option.map_eq_some_iff.mp scanned
        rw [if_neg ‹_›, inductionHypothesis read plain]
        rfl
    | inside read =>
      rw [scan] at scanned
      rw [scanEscaped_inside]
      split at scanned
      · rw [if_pos ‹_›]
        exact inductionHypothesis scanned plain
      · have noBackslash : character ≠ '\\' := by
          rintro rfl
          obtain ⟨contents, member, begins⟩ := exists_name_of_scan (Or.inl scanned)
          exact plain contents member (begins.subset (by simp))
        rw [if_neg ‹_›, if_neg noBackslash]
        exact inductionHypothesis scanned plain
    | afterQuote read =>
      rw [scan] at scanned
      rw [scanEscaped]
      split at scanned
      · rw [if_pos ‹_›]
        exact inductionHypothesis scanned plain
      · obtain ⟨others, following, rfl⟩ := Option.map_eq_some_iff.mp scanned
        have plainOthers := (List.forall_mem_cons.mp plain).2
        rw [if_neg ‹_›, inductionHypothesis following plainOthers]
        rfl

/-! ### Where something is escaped -/

/-- The characters that a lexeme is written with. -/
def Lexeme.spelling (quote : Char) : Lexeme → List Char
  | .name contents => Text.enclose quote contents
  | .symbol character => [character]

@[simp]
theorem length_double (quote : Char) (text : List Char) :
    (Text.double quote text).length = text.length + text.count quote := by
  induction text with
  | nil => rfl
  | cons character rest inductionHypothesis =>
    rw [Text.double, List.length_cons, List.count_cons]
    split <;> simp [*] <;> omega

/-- How much of a text some contents of a name take up, at the least: a quote in them is written
with two characters, and so is a backslash, which has to be escaped. -/
def contentsWeight (quote : Char) (contents : List Char) : Nat :=
  contents.length + contents.count quote + contents.count '\\'

def Lexeme.weight (quote : Char) : Lexeme → Nat
  | .name contents => contentsWeight quote contents + 2
  | .symbol _ => 1

def Standing.weight (quote : Char) : Standing → Nat
  | .outside => 0
  | .inside read => contentsWeight quote read + 1
  | .afterQuote read => contentsWeight quote read + 2

@[simp]
theorem contentsWeight_append (quote : Char) (first second : List Char) :
    contentsWeight quote (first ++ second) =
      contentsWeight quote first + contentsWeight quote second := by
  simp only [contentsWeight, List.length_append, List.count_append]
  omega

theorem contentsWeight_singleton_le {quote : Char} (other : quote ≠ '\\') (character : Char) :
    contentsWeight quote [character] ≤ 2 := by
  by_cases same : character = quote
  · simp [contentsWeight, same, other]
  · simp only [contentsWeight, List.count_singleton, List.length_singleton, beq_iff_eq,
      if_neg same]
    split <;> omega

theorem contentsWeight_singleton {quote character : Char} (noQuote : character ≠ quote)
    (noBackslash : character ≠ '\\') : contentsWeight quote [character] = 1 := by
  simp [contentsWeight, noQuote, noBackslash]

/-- What is read with escapes weighs no more than the text in front of the scan. -/
theorem sum_weight_le_of_scanEscaped {meaning : Char → Char} {quote : Char}
    (other : quote ≠ '\\') {standing : Standing} {text : List Char} {lexemes : List Lexeme}
    (scanned : scanEscaped meaning quote standing text = some lexemes) :
    (lexemes.map (Lexeme.weight quote)).sum ≤ standing.weight quote + text.length := by
  fun_induction scanEscaped meaning quote standing text generalizing lexemes with
  | case1 =>
    cases scanned
    exact Nat.zero_le _
  | case2 rest inductionHypothesis =>
    have bound := inductionHypothesis scanned
    simp only [Standing.weight, contentsWeight, List.length_nil, List.count_nil] at bound
    simp only [Standing.weight, List.length_cons]
    omega
  | case3 character rest different inductionHypothesis =>
    obtain ⟨others, following, rfl⟩ := Option.map_eq_some_iff.mp scanned
    have bound := inductionHypothesis following
    simp only [List.map_cons, List.sum_cons, Lexeme.weight, List.length_cons]
    omega
  | case4 read => cases scanned
  | case5 read rest inductionHypothesis =>
    have bound := inductionHypothesis scanned
    simp only [Standing.weight, List.length_cons] at bound ⊢
    omega
  | case6 => cases scanned
  | case7 read escaped rest different inductionHypothesis =>
    have bound := inductionHypothesis scanned
    have single := contentsWeight_singleton_le other (meaning escaped)
    simp only [Standing.weight, contentsWeight_append, List.length_cons] at bound ⊢
    omega
  | case8 read character rest different plain inductionHypothesis =>
    have bound := inductionHypothesis scanned
    have single := contentsWeight_singleton different plain
    simp only [Standing.weight, contentsWeight_append, List.length_cons] at bound ⊢
    omega
  | case9 read =>
    cases scanned
    exact Nat.le_refl _
  | case10 read rest inductionHypothesis =>
    have bound := inductionHypothesis scanned
    have single := contentsWeight_singleton_le other quote
    simp only [Standing.weight, contentsWeight_append, List.length_cons] at bound ⊢
    omega
  | case11 read character rest different inductionHypothesis =>
    obtain ⟨others, following, rfl⟩ := Option.map_eq_some_iff.mp scanned
    have bound := inductionHypothesis following
    simp only [List.map_cons, List.sum_cons, Lexeme.weight, Standing.weight,
      List.length_cons] at bound ⊢
    omega

theorem sum_weight (quote : Char) (lexemes : List Lexeme) :
    (lexemes.map (Lexeme.weight quote)).sum =
      (lexemes.flatMap (Lexeme.spelling quote)).length +
        ((lexemes.filterMap Lexeme.name?).map (List.count '\\')).sum := by
  induction lexemes with
  | nil => rfl
  | cons lexeme rest inductionHypothesis =>
    rw [List.map_cons, List.sum_cons, inductionHypothesis, List.flatMap_cons, List.length_append]
    cases lexeme with
    | name contents =>
      rw [List.filterMap_cons_some (f := Lexeme.name?) rfl, List.map_cons, List.sum_cons]
      simp only [Lexeme.weight, contentsWeight, Lexeme.spelling, Text.enclose, List.length_append,
        List.length_cons, List.length_nil, length_double]
      omega
    | symbol character =>
      rw [List.filterMap_cons_none rfl, Lexeme.weight, Lexeme.spelling, List.length_singleton,
        Nat.add_assoc]

/-- A text that spells some lexemes is read as these lexemes with escapes just where no name in it
has a backslash. -/
theorem scanEscaped_eq_some_iff (meaning : Char → Char) {quote : Char} (other : quote ≠ '\\')
    {text : List Char} {lexemes : List Lexeme}
    (spelled : text = lexemes.flatMap (Lexeme.spelling quote))
    (scanned : scan quote .outside text = some lexemes) :
    scanEscaped meaning quote .outside text = some lexemes ↔
      ∀ contents ∈ lexemes.filterMap Lexeme.name?, '\\' ∉ contents := by
  constructor
  · intro escaped
    have bound := sum_weight_le_of_scanEscaped other escaped
    rw [sum_weight, ← spelled, Standing.weight] at bound
    have none : ((lexemes.filterMap Lexeme.name?).map (List.count '\\')).sum = 0 := by omega
    intro contents member
    exact List.count_eq_zero.mp
      (List.sum_eq_zero_iff_forall_eq_nat.mp none _ (List.mem_map_of_mem member))
  · exact scanEscaped_of_scan meaning scanned

/-! ### Names and texts -/

theorem textOf_eq_spelling (dialect : Dialect) (pieces : List Piece) :
    textOf dialect pieces =
      (pieces.flatMap (Piece.lexemes dialect)).flatMap (Lexeme.spelling dialect.quote) := by
  have symbols : ∀ text : List Char,
      (text.map Lexeme.symbol).flatMap (Lexeme.spelling dialect.quote) = text := by
    intro text
    rw [List.flatMap_map]
    exact List.flatMap_singleton' text
  rw [textOf, List.flatMap_assoc]
  refine List.flatMap_congr fun piece _ => ?_
  cases piece with
  | verbatim text => exact (symbols text.toList).symm
  | column name => exact (List.append_nil _).symm
  | slot number => exact (symbols (dialect.placeholder number)).symm

theorem Dialect.quote_ne_backslash (dialect : Dialect) : dialect.quote ≠ '\\' := by
  cases dialect <;> decide

theorem scanEscaped_quoted_iff (meaning : Char → Char) (dialect : Dialect) (name : String) :
    scanEscaped meaning dialect.quote .outside (dialect.quoted name) = some [.name name.toList] ↔
      '\\' ∉ name.toList := by
  have scanned : scan dialect.quote .outside (dialect.quoted name ++ []) =
      some [.name name.toList] := scan_enclose name.toList (by simp)
  rw [List.append_nil] at scanned
  have spelled : dialect.quoted name =
      [Lexeme.name name.toList].flatMap (Lexeme.spelling dialect.quote) := (List.append_nil _).symm
  rw [scanEscaped_eq_some_iff meaning dialect.quote_ne_backslash spelled scanned]
  exact List.forall_mem_singleton

/-- Whether a filter has a field with a backslash in its name, and asks for it by that name. -/
def NamesBackslash (tree : Tree) : Prop :=
  ∃ leaf ∈ tree.leaves, columnUses leaf.2 ≠ 0 ∧ '\\' ∈ leaf.1.toList

namespace Statement

variable {dialect : Dialect} {limit : Nat} {tree : Tree} {statement : Statement}

/-- The lexemes of the text of a statement, where a quote has no escape but to be doubled. -/
def lexemes (dialect : Dialect) (statement : Statement) : List Lexeme :=
  (statement.clause.pieces dialect).flatMap (Piece.lexemes dialect)

theorem names_lexemes (made : ofTree dialect limit tree = .ok statement) :
    (statement.lexemes dialect).filterMap Lexeme.name? =
      tree.leaves.flatMap fun leaf => List.replicate (columnUses leaf.2) leaf.1.toList := by
  obtain ⟨_, lowered⟩ := ofTree_eq_ok_iff.mp made
  rw [lexemes, filterMap_name?_lexemes, lowered.columnsOf_eq, List.map_flatMap]
  exact List.flatMap_congr fun leaf _ => List.map_replicate

theorem namesBackslash_iff (made : ofTree dialect limit tree = .ok statement) :
    (∀ contents ∈ (statement.lexemes dialect).filterMap Lexeme.name?, '\\' ∉ contents) ↔
      ¬ NamesBackslash tree := by
  rw [names_lexemes made]
  constructor
  · rintro plain ⟨leaf, member, used, backslash⟩
    exact plain leaf.1.toList
      (List.mem_flatMap.mpr ⟨leaf, member, List.mem_replicate.mpr ⟨used, rfl⟩⟩) backslash
  · intro plain contents member backslash
    obtain ⟨leaf, inTree, copy⟩ := List.mem_flatMap.mp member
    obtain ⟨used, rfl⟩ := List.mem_replicate.mp copy
    exact plain ⟨leaf, inTree, used, backslash⟩

/-- The text of a statement is read with escapes as it is read without them, just where its filter
asks for no name with a backslash. -/
theorem scanEscaped_whereText_iff (meaning : Char → Char)
    (made : ofTree dialect limit tree = .ok statement) :
    scanEscaped meaning dialect.quote .outside (statement.whereText dialect).toList =
        some (statement.lexemes dialect) ↔
      ¬ NamesBackslash tree := by
  have spelled : (statement.whereText dialect).toList =
      (statement.lexemes dialect).flatMap (Lexeme.spelling dialect.quote) := by
    rw [whereText, String.toList_ofList]
    exact textOf_eq_spelling dialect _
  rw [← namesBackslash_iff made]
  exact scanEscaped_eq_some_iff meaning dialect.quote_ne_backslash spelled (scan_whereText made)

theorem erased_lexemes_of_outline_eq {otherLimit : Nat} {other : Tree} {otherStatement : Statement}
    (made : ofTree dialect limit tree = .ok statement)
    (otherMade : ofTree dialect otherLimit other = .ok otherStatement)
    (same : other.outline = tree.outline) :
    (otherStatement.lexemes dialect).map Lexeme.erased =
      (statement.lexemes dialect).map Lexeme.erased := by
  obtain ⟨_, lowered⟩ := ofTree_eq_ok_iff.mp made
  obtain ⟨_, otherLowered⟩ := ofTree_eq_ok_iff.mp otherMade
  have outlines : (otherStatement.clause.pieces dialect).map Piece.outline =
      (statement.clause.pieces dialect).map Piece.outline := by
    rw [← otherLowered.solid.pieces_outline, ← lowered.solid.pieces_outline,
      lowered.outline_eq same otherLowered]
  rw [lexemes, lexemes, ← map_erased_lexemes, outlines, map_erased_lexemes]

/-- In the dialect whose database knows escapes in names, whatever an escape may stand for: a name
is read back from its quoted form, as one whole name, just if it has no backslash. And the text of
a filter falls into its names and the rest as it was meant to, just if no name in it has one; then
the names are the fields of the leaves, and the rest is the same for all such filters with one
outline. -/
theorem names_kept_iff_no_backslash (meaning : Char → Char) :
    (∀ name : String,
        scanEscaped meaning (Dialect.quote .clickhouse) .outside
            (Dialect.quoted .clickhouse name) = some [.name name.toList] ↔
          '\\' ∉ name.toList) ∧
      ∀ (limit : Nat) (tree : Tree) (statement : Statement),
        ofTree .clickhouse limit tree = .ok statement →
        ∃ lexemes,
          scan (Dialect.quote .clickhouse) .outside (statement.whereText .clickhouse).toList =
            some lexemes ∧
          lexemes.filterMap Lexeme.name? =
            tree.leaves.flatMap
              (fun leaf => List.replicate (columnUses leaf.2) leaf.1.toList) ∧
          (scanEscaped meaning (Dialect.quote .clickhouse) .outside
              (statement.whereText .clickhouse).toList = some lexemes ↔
            ¬ NamesBackslash tree) ∧
          ∀ (otherLimit : Nat) (other : Tree) (otherStatement : Statement),
            ofTree .clickhouse otherLimit other = .ok otherStatement →
            other.outline = tree.outline → ¬ NamesBackslash other →
            ∃ otherLexemes,
              scanEscaped meaning (Dialect.quote .clickhouse) .outside
                (otherStatement.whereText .clickhouse).toList = some otherLexemes ∧
              otherLexemes.map Lexeme.erased = lexemes.map Lexeme.erased := by
  refine ⟨fun name => scanEscaped_quoted_iff meaning .clickhouse name, ?_⟩
  intro limit tree statement made
  refine ⟨_, scan_whereText made, names_lexemes made, scanEscaped_whereText_iff meaning made, ?_⟩
  intro otherLimit other otherStatement otherMade same plain
  exact ⟨_, (scanEscaped_whereText_iff meaning otherMade).mpr plain,
    erased_lexemes_of_outline_eq made otherMade same⟩

theorem doubled_quotes_are_kept :
    let tree := Tree.leaf "a\x60 OR 1=1 --" (.compare .ne (.str "x"))
    let other := Tree.leaf "b" (.compare .ne (.bool true))
    ∃ statement otherStatement lexemes otherLexemes,
      ofTree .clickhouse 1 tree = .ok statement ∧
      ofTree .clickhouse 1 other = .ok otherStatement ∧
      other.outline = tree.outline ∧ ¬ NamesBackslash tree ∧ ¬ NamesBackslash other ∧
      scanEscaped id '\x60' .outside (statement.whereText .clickhouse).toList = some lexemes ∧
      lexemes.filterMap Lexeme.name? =
        ["a\x60 OR 1=1 --".toList, "a\x60 OR 1=1 --".toList] ∧
      scanEscaped id '\x60' .outside (otherStatement.whereText .clickhouse).toList =
        some otherLexemes ∧
      otherLexemes.map Lexeme.erased = lexemes.map Lexeme.erased := by
  intro tree other
  have made : ofTree .clickhouse 1 tree =
      .ok ⟨.differs "a\x60 OR 1=1 --" 1, ⟨[.string "x"]⟩⟩ := rfl
  have otherMade : ofTree .clickhouse 1 other = .ok ⟨.differs "b" 1, ⟨[.bool true]⟩⟩ := rfl
  have plain : ¬ NamesBackslash tree := by
    rintro ⟨leaf, member, _, backslash⟩
    cases List.mem_singleton.mp member
    revert backslash
    decide
  have otherPlain : ¬ NamesBackslash other := by
    rintro ⟨leaf, member, _, backslash⟩
    cases List.mem_singleton.mp member
    revert backslash
    decide
  obtain ⟨lexemes, _, names, kept, alike⟩ := (names_kept_iff_no_backslash id).2 1 tree _ made
  obtain ⟨otherLexemes, scanned, same⟩ := alike 1 other _ otherMade rfl otherPlain
  exact ⟨_, _, lexemes, otherLexemes, made, otherMade, rfl, plain, otherPlain, kept.mpr plain,
    names, scanned, same⟩

/-- A backslash at the end of a name takes the closing quote along, and one before a letter is
lost. -/
theorem backslash_takes_closing_quote :
    scanEscaped id '\x60' .outside (Dialect.quoted .clickhouse "a\\") = none ∧
      scanEscaped id '\x60' .outside (Dialect.quoted .clickhouse "a\\b") =
        some [.name ['a', 'b']] ∧
      ∃ statement,
        ofTree .clickhouse 1 (.leaf "a\\" (.compare .eq (.int 1))) = .ok statement ∧
        statement.whereText .clickhouse = "\x60a\\\x60 = ?" ∧
        scanEscaped id '\x60' .outside (statement.whereText .clickhouse).toList = none := by
  have made : ofTree .clickhouse 1 (.leaf "a\\" (.compare .eq (.int 1))) =
      .ok ⟨.relates "a\\" .equal 1, ⟨[.integer 1]⟩⟩ := rfl
  refine ⟨by decide, by decide, _, made, rfl, ?_⟩
  rw [whereText, String.toList_ofList]
  decide

end Statement

end Sieve.Sql
