/-
The text of a clause is read as what the clause means. As pieces never run together, the
tokens of a text are the tokens of its pieces; and as every clause is a predicate, stands
in brackets or is a negation, it is read to its end wherever it stands, whatever follows.
So no part of a joined clause is torn apart by the words around it.

The parameters that are written as question marks get the numbers that the clause has for
them, because a clause refers to its parameters in their order.
-/

import Sieve.Proofs.Sql.Expression

namespace Sieve.Sql

open Sieve.Filter (Connective)

/-! ### Tokens of pieces -/

theorem isWordCharacter_eq_false_of_isMark {character : Char} (mark : isMark character = true) :
    isWordCharacter character = false ∧ isSignCharacter character = false := by
  simp only [isMark, Bool.or_eq_true, decide_eq_true_eq] at mark
  rcases mark with ((rfl | rfl) | rfl) | rfl
  · exact ⟨rfl, rfl⟩
  · exact ⟨rfl, rfl⟩
  · exact ⟨rfl, rfl⟩
  · exact ⟨rfl, rfl⟩

namespace Lexeme

theorem joins_mark_left {character : Char} (mark : isMark character = true) (right : Lexeme) :
    (symbol character).joins right = false := by
  obtain ⟨word, sign⟩ := isWordCharacter_eq_false_of_isMark mark
  cases right with
  | name contents => rfl
  | symbol other => rw [joins, word, sign, Bool.false_and, Bool.false_and, Bool.or_false]

theorem joins_mark_right {character : Char} (mark : isMark character = true) (left : Lexeme) :
    left.joins (symbol character) = false := by
  obtain ⟨word, sign⟩ := isWordCharacter_eq_false_of_isMark mark
  cases left with
  | name contents => rfl
  | symbol other => rw [joins, word, sign, Bool.and_false, Bool.and_false, Bool.or_false]

theorem filterMap_symbol? (text : List Char) : (text.map symbol).filterMap symbol? = text := by
  rw [List.filterMap_map]
  exact List.filterMap_some

end Lexeme

theorem joins_of_endsWithMark {dialect : Dialect} {piece : Piece}
    (mark : piece.endsWithMark = true) {last : Lexeme}
    (isLast : last ∈ (piece.lexemes dialect).getLast?) (right : Lexeme) :
    last.joins right = false := by
  cases piece with
  | column name => cases mark
  | slot number => cases mark
  | verbatim text =>
    rw [Piece.lexemes, List.getLast?_map, Option.mem_map] at isLast
    obtain ⟨character, found, rfl⟩ := isLast
    have isMarked : text.toList.getLast?.any isMark = true := mark
    rw [Option.mem_def.mp found] at isMarked
    exact Lexeme.joins_mark_left isMarked right

theorem joins_of_startsWithMark {dialect : Dialect} {piece : Piece}
    (mark : piece.startsWithMark = true) {rest : List Lexeme} {first : Lexeme}
    (isFirst : first ∈ (piece.lexemes dialect ++ rest).head?) (left : Lexeme) :
    left.joins first = false := by
  cases piece with
  | column name => cases mark
  | slot number => cases mark
  | verbatim text =>
    have isMarked : text.toList.head?.any isMark = true := mark
    rw [Piece.lexemes] at isFirst
    cases shape : text.toList with
    | nil =>
      rw [shape] at isMarked
      cases isMarked
    | cons character others =>
      rw [shape] at isMarked isFirst
      cases isFirst
      exact Lexeme.joins_mark_right isMarked left

namespace Token

theorem ofLexemes_append {left right : List Lexeme}
    (apart : ∀ last ∈ left.getLast?, ∀ first ∈ right.head?, Lexeme.joins last first = false) :
    ofLexemes (left ++ right) = ofLexemes left ++ ofLexemes right := by
  rw [ofLexemes, List.splitBy_append apart, List.filterMap_append]
  rfl

/-- The tokens of settled pieces are those of each piece. -/
theorem ofLexemes_pieces (dialect : Dialect) {pieces : List Piece}
    (settled : Piece.settled pieces = true) :
    ofLexemes (pieces.flatMap (Piece.lexemes dialect)) =
      pieces.flatMap fun piece => ofLexemes (piece.lexemes dialect) := by
  induction pieces with
  | nil => rfl
  | cons piece rest inductionHypothesis =>
    have tail := inductionHypothesis (Piece.settled_of_cons settled)
    rw [List.flatMap_cons, List.flatMap_cons, ← tail]
    refine ofLexemes_append fun last isLast first isFirst => ?_
    cases rest with
    | nil => cases isFirst
    | cons next rest =>
      rcases Piece.mark_of_cons_cons settled with mark | mark
      · exact joins_of_endsWithMark mark isLast first
      · exact joins_of_startsWithMark mark isFirst last

/-! ### Placeholders -/

theorem mem_of_ofSpelling?_eq_placeholder {spelling : List Char} {number : Option Nat}
    (placeholder : ofSpelling? spelling = some (.placeholder number)) :
    '?' ∈ spelling ∨ '$' ∈ spelling := by
  unfold ofSpelling? at placeholder
  split at placeholder
  · cases placeholder
  · exact Or.inl List.mem_cons_self
  · exact Or.inr List.mem_cons_self
  · split at placeholder
    · cases placeholder
    · cases placeholder

/-- Plain text has no placeholder in it. -/
theorem ne_placeholder_of_isPlain {text : String} (plain : (Piece.verbatim text).isPlain = true)
    {token : Token} (member : token ∈ ofLexemes (text.toList.map .symbol)) (number : Option Nat) :
    token ≠ .placeholder number := by
  rintro rfl
  obtain ⟨run, isRun, made⟩ := List.mem_filterMap.mp member
  have symbols : ∀ lexeme ∈ run, ∃ character ∈ text.toList, .symbol character = lexeme := by
    intro lexeme inRun
    have inText : lexeme ∈ text.toList.map Lexeme.symbol := by
      rw [← List.flatten_splitBy Lexeme.joins (text.toList.map Lexeme.symbol)]
      exact List.mem_flatten_of_mem isRun inRun
    exact List.mem_map.mp inText
  have spelled : ofSpelling? (run.filterMap Lexeme.symbol?) = some (.placeholder number) := by
    unfold ofRun? at made
    split at made
    · cases made
    · exact made
  have inText : ∀ character ∈ run.filterMap Lexeme.symbol?, character ∈ text.toList := by
    intro character inRun
    obtain ⟨lexeme, inLexemes, found⟩ := List.mem_filterMap.mp inRun
    obtain ⟨original, inOriginal, rfl⟩ := symbols lexeme inLexemes
    cases found
    exact inOriginal
  rcases mem_of_ofSpelling?_eq_placeholder spelled with question | dollar
  · cases List.all_eq_true.mp plain _ (inText _ question)
  · cases List.all_eq_true.mp plain _ (inText _ dollar)

theorem ofLexemes_slot (dialect : Dialect) (slot : Nat) :
    ∃ number, ofLexemes ((Piece.slot slot).lexemes dialect) = [.placeholder number] ∧
      (number = none ∨ number = some slot) := by
  cases dialect with
  | postgres =>
    have word : ∀ character ∈ '$' :: Decimal.digits slot, isWordCharacter character = true := by
      intro character member
      rcases List.mem_cons.mp member with rfl | digit
      · rfl
      · have isDigit := Decimal.isDigit_of_mem_digits digit
        rw [isWordCharacter, Char.isAlphanum, isDigit, Bool.or_true, Bool.true_or, Bool.true_or]
    have run : (('$' :: Decimal.digits slot).map Lexeme.symbol).splitBy Lexeme.joins =
        [('$' :: Decimal.digits slot).map Lexeme.symbol] := by
      refine List.splitBy_of_isChain (List.cons_ne_nil _ _) (List.Pairwise.isChain ?_)
      refine List.pairwise_map.mpr (List.pairwise_of_forall_mem_list fun left inLeft right inRight => ?_)
      show (isWordCharacter left && isWordCharacter right || _) = true
      rw [word left inLeft, word right inRight]
      rfl
    refine ⟨some slot, ?_, Or.inr rfl⟩
    show ((('$' :: Decimal.digits slot).map Lexeme.symbol).splitBy Lexeme.joins).filterMap ofRun? =
      [.placeholder (some slot)]
    rw [run]
    have spelled : ofRun? (('$' :: Decimal.digits slot).map Lexeme.symbol) =
        some (.placeholder (some slot)) := by
      show ofSpelling? ((('$' :: Decimal.digits slot).map Lexeme.symbol).filterMap
        Lexeme.symbol?) = _
      rw [Lexeme.filterMap_symbol?]
      show some (placeholder (some (Decimal.value (Decimal.digits slot)))) = _
      simp
    rw [List.filterMap_cons_some spelled]
    rfl
  | _ => exact ⟨none, rfl, Or.inl rfl⟩

/-! ### Numbered tokens -/

theorem numberFrom_append {left : List Token} (next : Nat) (right : List Token)
    (numbered : ∀ token ∈ left, ∀ number, token ≠ .placeholder number) :
    numberFrom next (left ++ right) = left ++ numberFrom next right := by
  induction left with
  | nil => rfl
  | cons token rest inductionHypothesis =>
    obtain ⟨other, others⟩ := List.forall_mem_cons.mp numbered
    have tail := inductionHypothesis others
    cases token with
    | placeholder number => exact absurd rfl (other number)
    | _ => exact congrArg (_ :: ·) tail

end Token

/-- The tokens of a piece, with the number of a parameter that it refers to. -/
def Piece.tokens : Piece → List Token
  | .verbatim text => Token.ofLexemes (text.toList.map .symbol)
  | .column name => [.name name]
  | .slot number => [.placeholder (some number)]

/-- The tokens of pieces. -/
def tokensOf (pieces : List Piece) : List Token :=
  pieces.flatMap Piece.tokens

/-- Counting the placeholders of settled pieces gives each the number that its piece has, if the
pieces refer to parameters in their order. -/
theorem numberFrom_pieces (dialect : Dialect) {pieces : List Piece}
    (settled : Piece.settled pieces = true) (next : Nat) {count : Nat}
    (inOrder : slotsOf pieces = List.range' next count) :
    Token.numberFrom next
        (pieces.flatMap fun piece => Token.ofLexemes (piece.lexemes dialect)) =
      tokensOf pieces := by
  induction pieces generalizing next count with
  | nil => rfl
  | cons piece rest inductionHypothesis =>
    have tail := @inductionHypothesis (Piece.settled_of_cons settled)
    rw [List.flatMap_cons, tokensOf, List.flatMap_cons]
    cases piece with
    | verbatim text =>
      rw [← tokensOf, ← tail next inOrder]
      exact Token.numberFrom_append next _ fun token member =>
        Token.ne_placeholder_of_isPlain (Piece.isPlain_of_cons settled) member
    | column name =>
      rw [← tokensOf, ← tail next inOrder]
      show Token.name (String.ofList name.toList) :: _ = Token.name name :: _
      rw [String.ofList_toList]
      rfl
    | slot slot =>
      have order : slot :: slotsOf rest = List.range' next count := inOrder
      cases count with
      | zero => cases order
      | succ count =>
        rw [List.range'_succ, List.cons.injEq] at order
        obtain ⟨rfl, others⟩ := order
        obtain ⟨number, single, known⟩ := Token.ofLexemes_slot dialect slot
        have given : number.getD slot = slot := by
          rcases known with rfl | rfl
          · rfl
          · rfl
        rw [← tokensOf, ← tail (slot + 1) others, single]
        show Token.placeholder (some (number.getD slot)) :: _ = .placeholder (some slot) :: _
        rw [given]
        rfl

/-! ### Clauses as expressions -/

/-- What joins the parts of a clause, inside of its brackets. -/
def joinOf : Connective → Expression → Expression → Expression
  | .and => .and
  | .or => .or
  | .nor => .or

/-- The word between the parts of a clause. -/
def wordOf : Connective → Word
  | .and => .and
  | .or => .or
  | .nor => .or

/-- What is made of the parts of a clause once they are joined. -/
def finish : Connective → Expression → Expression
  | .and, joined => joined
  | .or, joined => joined
  | .nor, joined => .not (.coalesce joined (.constant false))

mutual

/-- What a clause means. -/
def Clause.expression : Clause → Expression
  | .constant holds => .constant holds
  | .relates column relation slot => .relates column relation slot
  | .differs column slot => .or (.not (.relates column .equal slot)) (.missing column)
  | .among column slots => .among column slots
  | .notAmong column slots => .or (.not (.among column slots)) (.missing column)
  | .present column true => .not (.missing column)
  | .present column false => .missing column
  | .matching column slot => .matching column slot
  | .joined connective parts => finish connective (Clause.joinedExpression connective parts)

/-- What the parts of a clause mean together; there is no clause without parts. -/
def Clause.joinedExpression (connective : Connective) : List Clause → Expression
  | [] => .constant true
  | [clause] => clause.expression
  | clause :: rest =>
    joinOf connective clause.expression (Clause.joinedExpression connective rest)

end

@[simp]
theorem tokensOf_append (left right : List Piece) :
    tokensOf (left ++ right) = tokensOf left ++ tokensOf right :=
  List.flatMap_append

theorem tokensOf_joinedPieces (dialect : Dialect) (connective : Connective) (first second : Clause)
    (others : List Clause) :
    tokensOf (joinedPieces dialect connective (first :: second :: others)) =
      tokensOf (first.pieces dialect) ++
        .word (wordOf connective) :: tokensOf (joinedPieces dialect connective (second :: others)) := by
  have between : Piece.tokens (.verbatim (separator connective)) = [.word (wordOf connective)] := by
    cases connective <;> rfl
  rw [joinedPieces, tokensOf_append]
  · show _ ++ (Piece.tokens (.verbatim (separator connective)) ++ _) = _
    rw [between]
    rfl
  · exact List.cons_ne_nil second others

/-- Every part is in the text of the whole, and there is a word between any two of them. -/
theorem length_tokensOf_joinedPieces (dialect : Dialect) (connective : Connective)
    (parts : List Clause) :
    parts.length ≤ (tokensOf (joinedPieces dialect connective parts)).length + 1 ∧
      ∀ part ∈ parts, (tokensOf (part.pieces dialect)).length ≤
        (tokensOf (joinedPieces dialect connective parts)).length := by
  induction parts with
  | nil => exact ⟨Nat.zero_le _, fun _ member => absurd member List.not_mem_nil⟩
  | cons first others inductionHypothesis =>
    cases others with
    | nil =>
      refine ⟨Nat.succ_le_succ (Nat.zero_le _), fun part member => ?_⟩
      rw [List.mem_singleton.mp member, joinedPieces]
    | cons second others =>
      obtain ⟨count, inside⟩ := inductionHypothesis
      rw [tokensOf_joinedPieces]
      simp only [List.length_append, List.length_cons] at count ⊢
      constructor
      · omega
      · intro part member
        rcases List.mem_cons.mp member with rfl | later
        · omega
        · have le := inside part later
          omega

/-! ### Reading lists of parameters -/

theorem readSlots_slotPieces {slots : List Nat} (nonempty : slots ≠ []) (rest : List Token) :
    readSlots (tokensOf (slotPieces slots) ++ .word .closing :: rest) = some (slots, rest) := by
  induction slots with
  | nil => exact absurd rfl nonempty
  | cons first others inductionHypothesis =>
    cases others with
    | nil => rfl
    | cons second others =>
      have tail := inductionHypothesis (List.cons_ne_nil second others)
      show (readSlots (tokensOf (slotPieces (second :: others)) ++ _)).map _ = _
      rw [tail]
      rfl

/-! ### Reading chains -/

theorem readChain_last {word : Word} {join : Expression → Expression → Expression}
    {operand : Reading} {tokens rest : List Token} {expression : Expression} (rounds : Nat)
    (read : operand tokens = some (expression, rest)) (stops : rest.head? ≠ some (.word word)) :
    readChain word join operand (rounds + 1) tokens = some (expression, rest) := by
  rw [readChain, read]
  exact if_neg stops

theorem readChain_next {word : Word} {join : Expression → Expression → Expression}
    {operand : Reading} {tokens rest : List Token} {expression : Expression} (rounds : Nat)
    (read : operand tokens = some (expression, .word word :: rest)) :
    readChain word join operand (rounds + 1) tokens =
      (readChain word join operand rounds rest).map fun (others, rest) =>
        (join expression others, rest) := by
  rw [readChain, read]
  exact if_pos rfl

/-- The parts of a clause are read as a chain, if each of them is read to its end before the next
one and before what follows. -/
theorem readChain_parts {dialect : Dialect} {connective : Connective} {operand : Reading}
    {parts : List Clause} {rest : List Token} (nonempty : parts ≠ [])
    (stops : rest.head? ≠ some (.word (wordOf connective)))
    (each : ∀ part ∈ parts, ∀ after,
      after.head? = some (.word (wordOf connective)) ∨ after = rest →
      operand (tokensOf (part.pieces dialect) ++ after) = some (part.expression, after))
    {rounds : Nat} (enough : parts.length ≤ rounds) :
    readChain (wordOf connective) (joinOf connective) operand rounds
        (tokensOf (joinedPieces dialect connective parts) ++ rest) =
      some (Clause.joinedExpression connective parts, rest) := by
  induction parts generalizing rounds with
  | nil => exact absurd rfl nonempty
  | cons first others inductionHypothesis =>
    obtain ⟨readFirst, readOthers⟩ := List.forall_mem_cons.mp each
    obtain ⟨fewer, rfl⟩ : ∃ fewer, rounds = fewer + 1 :=
      Nat.exists_eq_add_one_of_ne_zero (Nat.ne_zero_of_lt enough)
    cases others with
    | nil => exact readChain_last fewer (readFirst rest (Or.inr rfl)) stops
    | cons second others =>
      have tail := inductionHypothesis (List.cons_ne_nil second others) readOthers
        (Nat.le_of_succ_le_succ enough)
      have head := readFirst
        (.word (wordOf connective) ::
          (tokensOf (joinedPieces dialect connective (second :: others)) ++ rest)) (Or.inl rfl)
      rw [tokensOf_joinedPieces, List.append_assoc, List.cons_append, readChain_next fewer head,
        tail]
      rfl

/-! ### Reading in brackets -/

/-- Reads a part of a conjunction: a predicate that may be negated. -/
def readPart (depth : Nat) : Reading :=
  readNegation (readPredicate (readDisjunction depth))

theorem readConjunction_of_readPart {depth : Nat} {tokens rest : List Token}
    {expression : Expression} (read : readPart depth tokens = some (expression, rest))
    (stops : rest.head? ≠ some (.word .and)) :
    readConjunction (readPart depth) tokens = some (expression, rest) :=
  readChain_last tokens.length read stops

theorem readDisjunction_of_readConjunction {depth : Nat} {tokens rest : List Token}
    {expression : Expression}
    (read : readConjunction (readPart depth) tokens = some (expression, rest))
    (stops : rest.head? ≠ some (.word .or)) :
    readDisjunction (depth + 1) tokens = some (expression, rest) :=
  readChain_last tokens.length read stops

/-- Two parts with `OR` between, before a closing bracket. -/
theorem readDisjunction_of_two {depth : Nat} {tokens middle rest : List Token}
    {left right : Expression} (readLeft : readPart depth tokens = some (left, .word .or :: middle))
    (readRight : readPart depth middle = some (right, .word .closing :: rest))
    (shorter : middle.length < tokens.length) :
    readDisjunction (depth + 1) tokens = some (.or left right, .word .closing :: rest) := by
  have first := readConjunction_of_readPart readLeft (by simp)
  have second := readConjunction_of_readPart readRight (by simp)
  obtain ⟨rounds, length⟩ : ∃ rounds, tokens.length = rounds + 1 :=
    Nat.exists_eq_add_one_of_ne_zero (Nat.ne_zero_of_lt shorter)
  show readChain .or .or (readConjunction (readPart depth)) (tokens.length + 1) tokens = _
  rw [readChain_next tokens.length first, length, readChain_last rounds second (by simp)]
  rfl

theorem readPart_of_brackets {depth : Nat} {inside rest : List Token} {expression : Expression}
    (read : readDisjunction depth inside = some (expression, .word .closing :: rest)) :
    readPart depth (.word .opening :: inside) = some (expression, rest) := by
  show readPredicate (readDisjunction depth) (.word .opening :: inside) = _
  rw [readPredicate, read]

/-- The negation of what is true, with nothing known taken for false. -/
theorem readPart_of_fallback {depth : Nat} {inside rest : List Token} {expression : Expression}
    (read : readDisjunction (depth + 1) inside =
      some (expression, .word .comma :: .word .false :: .word .closing :: rest)) :
    readPart (depth + 1) (.word .not :: .word .coalesce :: .word .opening :: inside) =
      some (.not (.coalesce expression (.constant false)), rest) := by
  have fallback : readDisjunction (depth + 1) (.word .false :: .word .closing :: rest) =
      some (.constant false, .word .closing :: rest) := rfl
  have predicate : readPredicate (readDisjunction (depth + 1))
      (.word .coalesce :: .word .opening :: inside) =
        some (.coalesce expression (.constant false), rest) := by
    rw [readPredicate, read]
    dsimp only
    rw [fallback]
  show (readPredicate (readDisjunction (depth + 1))
    (.word .coalesce :: .word .opening :: inside)).map _ = _
  rw [predicate]
  rfl

/-! ### Reading clauses -/

theorem readPart_relates (depth : Nat) (column : String) (relation : Relation) (slot : Nat)
    (dialect : Dialect) (rest : List Token) :
    readPart depth (tokensOf (Clause.pieces dialect (.relates column relation slot)) ++ rest) =
      some (.relates column relation slot, rest) := by
  cases relation <;> rfl

theorem readPart_present (depth : Nat) (column : String) (wanted : Bool) (dialect : Dialect)
    (rest : List Token) :
    readPart depth (tokensOf (Clause.pieces dialect (.present column wanted)) ++ rest) =
      some (Clause.expression (.present column wanted), rest) := by
  cases wanted <;> rfl

theorem readPart_matching (depth : Nat) (column : String) (slot : Nat) (dialect : Dialect)
    (rest : List Token) :
    readPart depth (tokensOf (Clause.pieces dialect (.matching column slot)) ++ rest) =
      some (.matching column slot, rest) := by
  cases dialect <;> rfl

theorem readPart_constant (depth : Nat) (holds : Bool) (dialect : Dialect) (rest : List Token) :
    readPart depth (tokensOf (Clause.pieces dialect (.constant holds)) ++ rest) =
      some (.constant holds, rest) := by
  cases holds <;> rfl

theorem readPart_among (depth : Nat) (column : String) {slots : List Nat} (nonempty : slots ≠ [])
    (dialect : Dialect) (rest : List Token) :
    readPart depth (tokensOf (Clause.pieces dialect (.among column slots)) ++ rest) =
      some (.among column slots, rest) := by
  have inside := readSlots_slotPieces nonempty rest
  rw [Clause.pieces, tokensOf_append, List.append_assoc]
  show (readSlots (tokensOf (slotPieces slots) ++ .word .closing :: rest)).map _ = _
  rw [inside]
  rfl

theorem readPart_notAmong (depth : Nat) (column : String) {slots : List Nat}
    (nonempty : slots ≠ []) (rest : List Token) :
    readPart depth (.name column :: .word .not :: .word .within :: .word .opening ::
        (tokensOf (slotPieces slots) ++ .word .closing :: rest)) =
      some (.not (.among column slots), rest) := by
  have inside := readSlots_slotPieces nonempty rest
  show (readSlots (tokensOf (slotPieces slots) ++ .word .closing :: rest)).map _ = _
  rw [inside]
  rfl

/-- The tokens of a joined clause, with something after them. -/
theorem tokensOf_joined (dialect : Dialect) (connective : Connective) (parts : List Clause) :
    tokensOf (Clause.pieces dialect (.joined connective parts)) =
      Piece.tokens (.verbatim (opening connective)) ++
        (tokensOf (joinedPieces dialect connective parts) ++
          Piece.tokens (.verbatim (closing connective))) := by
  rw [Clause.pieces, tokensOf_append]
  show Piece.tokens (.verbatim (opening connective)) ++ _ ++
    (Piece.tokens (.verbatim (closing connective)) ++ []) = _
  rw [List.append_nil, List.append_assoc]
  rfl

/-- A joined clause is read up to the end of its brackets. -/
theorem readDisjunction_parts {dialect : Dialect} {connective : Connective} {parts : List Clause}
    {depth : Nat} {rest : List Token} (nonempty : parts ≠ [])
    (noAnd : rest.head? ≠ some (.word .and)) (noOr : rest.head? ≠ some (.word .or))
    (each : ∀ part ∈ parts, ∀ after,
      readPart depth (tokensOf (part.pieces dialect) ++ after) = some (part.expression, after)) :
    readDisjunction (depth + 1) (tokensOf (joinedPieces dialect connective parts) ++ rest) =
      some (Clause.joinedExpression connective parts, rest) := by
  have enough : parts.length ≤
      (tokensOf (joinedPieces dialect connective parts) ++ rest).length + 1 := by
    have count := (length_tokensOf_joinedPieces dialect connective parts).1
    rw [List.length_append]
    omega
  have single : ∀ part ∈ parts, ∀ after,
      after.head? = some (.word .or) ∨ after = rest →
      readConjunction (readPart depth) (tokensOf (part.pieces dialect) ++ after) =
        some (part.expression, after) := by
    intro part member after next
    refine readConjunction_of_readPart (each part member after) ?_
    rcases next with word | rfl
    · rw [word]
      exact fun same => by cases same
    · exact noAnd
  cases connective with
  | and =>
    refine readDisjunction_of_readConjunction ?_ noOr
    exact readChain_parts nonempty noAnd (fun part member after _ => each part member after) enough
  | or =>
    show readChain (wordOf .or) (joinOf .or) (readConjunction (readPart depth)) _ _ = _
    refine readChain_parts nonempty noOr ?_ enough
    exact single
  | nor =>
    show readChain (wordOf .nor) (joinOf .nor) (readConjunction (readPart depth)) _ _ = _
    refine readChain_parts nonempty noOr ?_ enough
    exact single

/-- A clause is read to its end and no further, whatever follows. -/
theorem Clause.Solid.readPart {clause : Clause} (solid : clause.Solid) (dialect : Dialect)
    {depth : Nat} (deep : (tokensOf (clause.pieces dialect)).length ≤ depth) (rest : List Token) :
    readPart depth (tokensOf (clause.pieces dialect) ++ rest) =
      some (clause.expression, rest) := by
  induction solid generalizing depth rest with
  | constant holds => exact readPart_constant depth holds dialect rest
  | relates column relation slot => exact readPart_relates depth column relation slot dialect rest
  | present column wanted => exact readPart_present depth column wanted dialect rest
  | matching column slot => exact readPart_matching depth column slot dialect rest
  | among column nonempty => exact readPart_among depth column nonempty dialect rest
  | differs column slot =>
    obtain ⟨less, rfl⟩ : ∃ less, depth = less + 1 :=
      Nat.exists_eq_add_one_of_ne_zero (Nat.ne_zero_of_lt deep)
    rfl
  | @notAmong column slots nonempty =>
    obtain ⟨less, rfl⟩ : ∃ less, depth = less + 1 :=
      Nat.exists_eq_add_one_of_ne_zero (Nat.ne_zero_of_lt deep)
    have left := readPart_notAmong less column nonempty
      (.word .or :: .name column :: .word .is :: .word .null :: .word .closing :: rest)
    have right : Sql.readPart less
        (.name column :: .word .is :: .word .null :: .word .closing :: rest) =
          some (.missing column, .word .closing :: rest) := rfl
    have whole := readPart_of_brackets (readDisjunction_of_two left right (by simp; omega))
    rw [Clause.pieces, tokensOf_append, List.append_assoc]
    exact whole
  | @joined connective parts nonempty _ inductionHypothesis =>
    have opened : 0 < (Piece.tokens (.verbatim (opening connective))).length := by
      cases connective <;> exact of_decide_eq_true rfl
    rw [tokensOf_joined] at deep ⊢
    rw [List.length_append, List.length_append] at deep
    obtain ⟨less, rfl⟩ : ∃ less, depth = less + 1 :=
      Nat.exists_eq_add_one_of_ne_zero (by omega)
    have each : ∀ part ∈ parts, ∀ after,
        Sql.readPart less (tokensOf (part.pieces dialect) ++ after) =
          some (part.expression, after) := by
      intro part member after
      have le := (length_tokensOf_joinedPieces dialect connective parts).2 part member
      exact inductionHypothesis part member (by omega) after
    rw [List.append_assoc, List.append_assoc]
    cases connective with
    | and =>
      show Sql.readPart (less + 1) (.word .opening ::
        (tokensOf (joinedPieces dialect .and parts) ++ .word .closing :: rest)) = _
      exact readPart_of_brackets (readDisjunction_parts nonempty (by simp) (by simp) each)
    | or =>
      show Sql.readPart (less + 1) (.word .opening ::
        (tokensOf (joinedPieces dialect .or parts) ++ .word .closing :: rest)) = _
      exact readPart_of_brackets (readDisjunction_parts nonempty (by simp) (by simp) each)
    | nor =>
      show Sql.readPart (less + 1) (.word .not :: .word .coalesce :: .word .opening ::
        (tokensOf (joinedPieces dialect .nor parts) ++
          .word .comma :: .word .false :: .word .closing :: rest)) = _
      exact readPart_of_fallback (readDisjunction_parts nonempty (by simp) (by simp) each)

/-- The tokens of a clause are read as what the clause means, and as nothing else. -/
theorem Clause.Solid.readTokens {clause : Clause} (solid : clause.Solid) (dialect : Dialect) :
    Sql.readTokens (tokensOf (clause.pieces dialect)) = some clause.expression := by
  have part := solid.readPart dialect (Nat.le_refl _) []
  rw [List.append_nil] at part
  have conjunction := readConjunction_of_readPart part (by simp)
  rw [Sql.readTokens, readDisjunction_of_readConjunction conjunction (by simp)]

/-- The text of a clause that refers to its parameters in their order is read as what the clause
means. -/
theorem Clause.Solid.read_text {clause : Clause} (solid : clause.Solid) (dialect : Dialect)
    {count : Nat} (inOrder : slotsOf (clause.pieces dialect) = List.range' 1 count) :
    Expression.read dialect (clause.text dialect) = some clause.expression := by
  have settled := solid.settled dialect
  rw [Expression.read, Clause.text, scan_textOf dialect settled, Option.bind_some,
    Token.ofLexemes_pieces dialect settled, numberFrom_pieces dialect settled 1 inOrder]
  exact solid.readTokens dialect

end Sieve.Sql
