/-
Documents as they are written. A source is a document in which the integers are still literals;
every other part is what it stands for. A text spells a source: that is a grammar of its own,
which relates a text, the source that it starts with and the text that is left. It shares the
strings and the numbers with a fraction or an exponent with the reader, and nothing else.

A text that is read as a document spells a source, and whatever source it spells stands for this
document. Both are shown by following the rounds of the reader, since the source of a list or a
mapping is put together while its text is read. A key that is repeated keeps its position and
takes the last value, in a source as in the document.
-/

import Mathlib.Data.List.DropRight
import Sieve.Proofs.Json.Literal
import Sieve.Proofs.Outcome

namespace Sieve.Json

/-! ### Sources -/

inductive Source where
  | null
  | bool (flag : Bool)
  | integer (literal : Literal)
  | decimal (number : Number)
  | string (text : String)
  | list (items : List Source)
  | mapping (members : List (String × Source))

namespace Source

mutual

/-- A source can be read as a document, part by part. -/
def Stands : Source → Json → Prop
  | .null, document => document = .null
  | .bool flag, document => document = .bool flag
  | .integer literal, document => literal.Stands document
  | .decimal number, document => document = ofNumber number
  | .string text, document => document = .string text
  | .list sources, document => ∃ items, document = .list items ∧ ItemsStand sources items
  | .mapping sources, document =>
    ∃ members, document = .mapping members ∧ MembersStand sources members

def ItemsStand : List Source → List Json → Prop
  | [], items => items = []
  | source :: rest, items => ∃ item others, items = item :: others ∧ Stands source item ∧
      ItemsStand rest others

def MembersStand : List (String × Source) → List (String × Json) → Prop
  | [], members => members = []
  | (key, source) :: rest, members => ∃ document others, members = (key, document) :: others ∧
      Stands source document ∧ MembersStand rest others

end

/-- Writing a value to a key goes along with writing what it stands for. -/
theorem MembersStand.insert {key : String} {source : Source} {document : Json}
    (stands : source.Stands document) : {sources : List (String × Source)} →
    {members : List (String × Json)} → MembersStand sources members →
    MembersStand (Table.insert key source sources) (Table.insert key document members)
  | [], _, rfl => ⟨document, [], rfl, stands, rfl⟩
  | (present, old) :: rest, _, ⟨value, others, rfl, head, tail⟩ => by
    rw [Table.insert, Table.insert]
    by_cases same : present = key
    · rw [if_pos same, if_pos same]
      exact ⟨document, others, rfl, stands, tail⟩
    · rw [if_neg same, if_neg same]
      exact ⟨value, _, rfl, head, MembersStand.insert stands tail⟩

end Source

/-! ### Texts of sources -/

/-- The text of a number: a minus sign, where there is one, and the rest. -/
def signedText (negative : Bool) (text : List Char) : List Char :=
  if negative then '-' :: text else text

/-- What stands in front of an item or a member: nothing if it is the first one, and else a comma. -/
inductive Separated : Bool → List Char → List Char → Prop where
  | first (text : List Char) : Separated true text text
  | comma {text more : List Char} (shape : skipSpaces text = ',' :: more) :
      Separated false text more

mutual

/-- A text starts with a source and goes on with another text. -/
inductive Spells : List Char → Source → List Char → Prop where
  | null (rest : List Char) : Spells ('n' :: 'u' :: 'l' :: 'l' :: rest) .null rest
  | true (rest : List Char) : Spells ('t' :: 'r' :: 'u' :: 'e' :: rest) (.bool true) rest
  | false (rest : List Char) : Spells ('f' :: 'a' :: 'l' :: 's' :: 'e' :: rest) (.bool false) rest
  | integer {rest : List Char} (literal : Literal) (digitEnds : startsWithDigit rest = false)
      (markEnds : startsWithMark rest = false) :
      Spells (signedText literal.negative (literal.digits ++ rest)) (.integer literal) rest
  | decimal {negative : Bool} {first : Char} {others after rest : List Char} {number : Number}
      (onlyDigits : ∀ character ∈ first :: others, character.isDigit = true)
      (marked : startsWithMark after = true)
      (read : readNumber negative (first :: others ++ after) = .ok (number, rest)) :
      Spells (signedText negative (first :: others ++ after)) (.decimal number) rest
  | string {quoted rest : List Char} {text : String}
      (read : readString .none [] quoted = .ok (text, rest)) :
      Spells ('"' :: quoted) (.string text) rest
  | list {text rest : List Char} {items : List Source} (spells : SpellsItems true text items rest) :
      Spells ('[' :: text) (.list items) rest
  | mapping {text rest : List Char} {members : List (String × Source)}
      (spells : SpellsMembers true [] text members rest) :
      Spells ('\x7b' :: text) (.mapping members) rest

/-- A text goes on with items up to the end of their list. -/
inductive SpellsItems : Bool → List Char → List Source → List Char → Prop where
  | close {first : Bool} {text rest : List Char} (shape : skipSpaces text = ']' :: rest) :
      SpellsItems first text [] rest
  | item {first : Bool} {text more after rest : List Char} {source : Source} {sources : List Source}
      (separated : Separated first text more) (head : Spells (skipSpaces more) source after)
      (tail : SpellsItems false after sources rest) :
      SpellsItems first text (source :: sources) rest

/-- A text goes on with members up to the end of their mapping; the members so far are given. -/
inductive SpellsMembers :
    Bool → List (String × Source) → List Char → List (String × Source) → List Char → Prop where
  | close {first : Bool} {text rest : List Char} {written : List (String × Source)}
      (shape : skipSpaces text = '\x7d' :: rest) : SpellsMembers first written text written rest
  | member {first : Bool} {text more quoted colon value after rest : List Char} {key : String}
      {source : Source} {written members : List (String × Source)}
      (separated : Separated first text more) (quote : skipSpaces more = '"' :: quoted)
      (name : readString .none [] quoted = .ok (key, colon))
      (shape : skipSpaces colon = ':' :: value) (head : Spells (skipSpaces value) source after)
      (tail : SpellsMembers false (Table.insert key source written) after members rest) :
      SpellsMembers first written text members rest

end

/-- A text is a source between blanks. -/
def IsWritten (text : String) (source : Source) : Prop :=
  ∃ rest, Spells (skipSpaces text.toList) source rest ∧ skipSpaces rest = []

/-! ### The reader by the first character -/

@[simp]
theorem skipSpaces_skipSpaces (text : List Char) : skipSpaces (skipSpaces text) = skipSpaces text :=
  List.dropWhile_idempotent isSpace text

variable {rounds room : Nat} {text rest : List Char}

theorem readValue_null (shape : skipSpaces text = 'n' :: 'u' :: 'l' :: 'l' :: rest) :
    readValue (rounds + 1) room text = .ok (.null, rest) := by
  rw [readValue, shape]
  rfl

theorem readValue_true (shape : skipSpaces text = 't' :: 'r' :: 'u' :: 'e' :: rest) :
    readValue (rounds + 1) room text = .ok (.bool true, rest) := by
  rw [readValue, shape]
  rfl

theorem readValue_false (shape : skipSpaces text = 'f' :: 'a' :: 'l' :: 's' :: 'e' :: rest) :
    readValue (rounds + 1) room text = .ok (.bool false, rest) := by
  rw [readValue, shape]
  rfl

theorem readValue_number {negative : Bool} {first : Char} {others : List Char}
    (digit : first.isDigit = true)
    (shape : skipSpaces text = signedText negative (first :: others)) :
    readValue (rounds + 1) room text =
      (readNumber negative (first :: others)).map fun read => (ofNumber read.1, read.2) := by
  rw [readValue, shape]
  cases negative with
  | true => rfl
  | false =>
    have other : ∀ letter : Char, letter.isDigit = false → first ≠ letter := by
      rintro letter noDigit rfl
      rw [digit] at noDigit
      cases noDigit
    show (if first = 'n' then _ else _) = _
    rw [if_neg (other 'n' rfl), if_neg (other 't' rfl), if_neg (other 'f' rfl),
      if_neg (other '-' rfl), if_pos digit]

theorem readValue_string (shape : skipSpaces text = '"' :: rest) :
    readValue (rounds + 1) room text =
      (readString .none [] rest).map fun read => (.string read.1, read.2) := by
  rw [readValue, shape]
  rfl

theorem readValue_list (shape : skipSpaces text = '[' :: rest) :
    readValue (rounds + 1) room text =
      if room ≤ 1 then stopBefore .tooDeep ('[' :: rest)
      else (readItems rounds (room - 1) true [] rest).map fun read => (.list read.1, read.2) := by
  rw [readValue, shape]
  rfl

theorem readValue_mapping (shape : skipSpaces text = '\x7b' :: rest) :
    readValue (rounds + 1) room text =
      if room ≤ 1 then stopBefore .tooDeep ('\x7b' :: rest)
      else
        (readMembers rounds (room - 1) true [] rest).map fun read => (.mapping read.1, read.2) := by
  rw [readValue, shape]
  rfl

/-! ### What separates items and members -/

variable {first : Bool} {more : List Char}

theorem nextItem_close (shape : skipSpaces text = ']' :: rest) :
    nextItem first text = .ok (false, rest) := by
  rw [nextItem, shape]
  rfl

theorem nextItem_item (separated : Separated first text more) {character : Char}
    (shape : skipSpaces more = character :: rest) (noEnd : character ≠ ']') :
    nextItem first text = .ok (true, character :: rest) := by
  unfold nextItem
  cases separated with
  | first =>
    rw [shape]
    split
    · cases ‹_ :: _ = []›
    · cases ‹_ :: _ = _ :: _›
      exact absurd rfl noEnd
    · cases ‹_ :: _ = _ :: _›
      rfl
    · rfl
  | comma comma =>
    split
    · rename_i none
      cases comma.symm.trans none
    · rename_i close
      cases comma.symm.trans close
    · rename_i next
      cases comma.symm.trans next
      rw [if_neg Bool.false_ne_true, shape]
      split
      · cases ‹_ :: _ = []›
      · cases ‹_ :: _ = _ :: _›
        exact absurd rfl noEnd
      · rfl
    · rename_i noComma
      exact absurd comma (noComma more)

theorem skipSpaces_of_nextItem (next : nextItem first text = .ok (false, rest)) :
    skipSpaces text = ']' :: rest := by
  unfold nextItem at next
  split at next
  · cases next
  · cases next
    assumption
  · split at next
    · cases next
    · split at next <;> cases next
  · split at next <;> cases next

theorem separated_of_nextItem (next : nextItem first text = .ok (true, rest)) :
    ∃ more, Separated first text more ∧ rest = skipSpaces more := by
  unfold nextItem at next
  cases first with
  | true =>
    refine ⟨text, .first text, ?_⟩
    split at next
    · cases next
    · cases next
    · cases next
      exact Eq.symm ‹_›
    · cases next
      rfl
  | false =>
    split at next
    · cases next
    · cases next
    · rename_i others comma
      refine ⟨others, .comma comma, ?_⟩
      rw [if_neg Bool.false_ne_true] at next
      split at next <;> cases next
      rfl
    · cases next

theorem nextKey_close (shape : skipSpaces text = '\x7d' :: rest) :
    nextKey first text = .ok (false, rest) := by
  rw [nextKey, shape]
  rfl

theorem nextKey_member (separated : Separated first text more)
    (quote : skipSpaces more = '"' :: rest) : nextKey first text = .ok (true, rest) := by
  unfold nextKey
  cases separated with
  | first =>
    rw [quote]
    rfl
  | comma comma =>
    split
    · rename_i none
      cases comma.symm.trans none
    · rename_i close
      cases comma.symm.trans close
    · rename_i next
      cases comma.symm.trans next
      rw [if_neg Bool.false_ne_true, quote]
      rfl
    · rename_i opening
      cases comma.symm.trans opening
    · rename_i noComma _
      exact absurd comma (noComma more)

theorem skipSpaces_of_nextKey (next : nextKey first text = .ok (false, rest)) :
    skipSpaces text = '\x7d' :: rest := by
  unfold nextKey at next
  split at next
  · cases next
  · cases next
    assumption
  · split at next
    · cases next
    · split at next <;> cases next
  · split at next <;> cases next
  · split at next <;> cases next

theorem separated_of_nextKey (next : nextKey first text = .ok (true, rest)) :
    ∃ more, Separated first text more ∧ skipSpaces more = '"' :: rest := by
  unfold nextKey at next
  cases first with
  | true =>
    refine ⟨text, .first text, ?_⟩
    split at next <;> cases next
    assumption
  | false =>
    split at next
    · cases next
    · cases next
    · rename_i others comma
      refine ⟨others, .comma comma, ?_⟩
      rw [if_neg Bool.false_ne_true] at next
      split at next <;> cases next
      assumption
    · cases next
    · cases next

theorem readColon_eq_ok_iff : readColon text = .ok rest ↔ skipSpaces text = ':' :: rest := by
  unfold readColon
  constructor
  · intro read
    split at read <;> cases read
    assumption
  · intro shape
    rw [shape]
    rfl

/-! ### What is read is written -/

theorem eq_append_of_readWord {letters : List Char} (read : readWord letters text = .ok rest) :
    text = letters ++ rest := by
  induction letters generalizing text with
  | nil =>
    cases read
    rfl
  | cons letter letters inductionHypothesis =>
    cases text with
    | nil => cases read
    | cons character others =>
      rw [readWord] at read
      split at read
      · rename_i same
        rw [same, inductionHypothesis read, List.cons_append]
      · cases read

/-- A word stands for one document. -/
theorem eq_of_readWord {letters : List Char} {wanted document : Json}
    (read : (readWord letters text).map (fun rest => (wanted, rest)) = .ok (document, rest)) :
    document = wanted ∧ text = letters ++ rest := by
  obtain ⟨_, word, same⟩ := map_eq_ok_iff.mp read
  cases same
  exact ⟨rfl, eq_append_of_readWord word⟩

/-- A number that is read after its sign is a literal or has a fraction or an exponent. -/
theorem spells_number {negative : Bool} {document : Json}
    (read : (readNumber negative text).map (fun read => (ofNumber read.1, read.2)) =
      .ok (document, rest)) :
    ∃ source, Spells (signedText negative text) source rest ∧ source.Stands document := by
  obtain ⟨⟨number, _⟩, found, same⟩ := map_eq_ok_iff.mp read
  cases same
  rcases shape_of_readNumber found with ⟨literal, after, rfl, rfl, digitEnds, markEnds⟩ |
    ⟨first, others, after, onlyDigits, rfl, marked⟩
  · obtain ⟨rfl, stands⟩ := literal.stands_of_readNumber digitEnds markEnds found
    exact ⟨.integer literal, .integer literal digitEnds markEnds, stands⟩
  · exact ⟨.decimal number, .decimal onlyDigits marked found, rfl⟩

/-- The step of a document, where the items of a list and the members of a mapping are known to be
written. The first character decides what is read. -/
theorem spells_value {document : Json}
    (read : readValue (rounds + 1) room text = .ok (document, rest))
    (list : ∀ {items more}, readItems rounds (room - 1) true [] more = .ok (items, rest) →
      ∃ sources, SpellsItems true more sources rest ∧ Source.ItemsStand sources items)
    (mapping : ∀ {members more}, readMembers rounds (room - 1) true [] more = .ok (members, rest) →
      ∃ sources, SpellsMembers true [] more sources rest ∧ Source.MembersStand sources members) :
    ∃ source, Spells (skipSpaces text) source rest ∧ source.Stands document := by
  rw [readValue] at read
  split at read
  · cases read
  · rename_i character more shape
    rw [shape]
    by_cases isNull : character = 'n'
    · rw [if_pos isNull] at read
      obtain ⟨rfl, rfl⟩ := eq_of_readWord read
      rw [isNull]
      exact ⟨.null, .null rest, rfl⟩
    rw [if_neg isNull] at read
    by_cases isTrue : character = 't'
    · rw [if_pos isTrue] at read
      obtain ⟨rfl, rfl⟩ := eq_of_readWord read
      rw [isTrue]
      exact ⟨.bool true, .true rest, rfl⟩
    rw [if_neg isTrue] at read
    by_cases isFalse : character = 'f'
    · rw [if_pos isFalse] at read
      obtain ⟨rfl, rfl⟩ := eq_of_readWord read
      rw [isFalse]
      exact ⟨.bool false, .false rest, rfl⟩
    rw [if_neg isFalse] at read
    by_cases isMinus : character = '-'
    · rw [if_pos isMinus] at read
      rw [isMinus]
      exact spells_number read
    rw [if_neg isMinus] at read
    by_cases isDigit : character.isDigit = true
    · rw [if_pos isDigit] at read
      exact spells_number read
    rw [if_neg isDigit] at read
    by_cases isQuote : character = '"'
    · rw [if_pos isQuote] at read
      obtain ⟨_, string, same⟩ := map_eq_ok_iff.mp read
      cases same
      rw [isQuote]
      exact ⟨.string _, .string string, rfl⟩
    rw [if_neg isQuote] at read
    by_cases isList : character = '['
    · rw [if_pos isList] at read
      split at read
      · cases read
      · obtain ⟨_, items, same⟩ := map_eq_ok_iff.mp read
        cases same
        obtain ⟨sources, spells, stand⟩ := list items
        rw [isList]
        exact ⟨.list sources, .list spells, _, rfl, stand⟩
    rw [if_neg isList] at read
    by_cases isMapping : character = '\x7b'
    · rw [if_pos isMapping] at read
      split at read
      · cases read
      · obtain ⟨_, members, same⟩ := map_eq_ok_iff.mp read
        cases same
        obtain ⟨sources, spells, stand⟩ := mapping members
        rw [isMapping]
        exact ⟨.mapping sources, .mapping spells, _, rfl, stand⟩
    rw [if_neg isMapping] at read
    cases read

mutual

theorem spells_of_readValue : (rounds room : Nat) → {text rest : List Char} → {document : Json} →
    readValue rounds room text = .ok (document, rest) →
    ∃ source, Spells (skipSpaces text) source rest ∧ source.Stands document
  | 0, _, _, _, _, read => by
    rw [readValue] at read
    cases read
  | rounds + 1, room, _, _, _, read =>
    spells_value read
      (fun items => by
        obtain ⟨sources, tail, spells, stand, rfl⟩ := spells_of_readItems rounds (room - 1) items
        exact ⟨sources, spells, stand⟩)
      (fun members => spells_of_readMembers rounds (room - 1) rfl members)

/-- The items that are read are added to those so far, which are kept in reverse. -/
theorem spells_of_readItems : (rounds room : Nat) → {first : Bool} → {earlier items : List Json} →
    {text rest : List Char} → readItems rounds room first earlier text = .ok (items, rest) →
    ∃ sources later, SpellsItems first text sources rest ∧ Source.ItemsStand sources later ∧
      items = earlier.reverse ++ later
  | 0, _, _, _, _, _, _, read => by
    rw [readItems] at read
    cases read
  | rounds + 1, room, first, earlier, items, text, rest, read => by
    rw [readItems] at read
    split at read
    · cases read
    · rename_i next
      cases read
      exact ⟨[], [], .close (skipSpaces_of_nextItem next), rfl, (List.append_nil _).symm⟩
    · rename_i next
      obtain ⟨more, separated, rfl⟩ := separated_of_nextItem next
      split at read
      · cases read
      · rename_i item
        obtain ⟨source, head, stands⟩ := spells_of_readValue rounds room item
        rw [skipSpaces_skipSpaces] at head
        obtain ⟨sources, later, tail, others, rfl⟩ := spells_of_readItems rounds room read
        refine ⟨source :: sources, _ :: later, .item separated head tail,
          ⟨_, later, rfl, stands, others⟩, ?_⟩
        rw [List.reverse_cons, List.append_assoc, List.singleton_append]

/-- The members that are read are written to those so far. -/
theorem spells_of_readMembers : (rounds room : Nat) → {first : Bool} →
    {written : List (String × Source)} → {earlier members : List (String × Json)} →
    {text rest : List Char} → Source.MembersStand written earlier →
    readMembers rounds room first earlier text = .ok (members, rest) →
    ∃ sources, SpellsMembers first written text sources rest ∧ Source.MembersStand sources members
  | 0, _, _, _, _, _, _, _, _, read => by
    rw [readMembers] at read
    cases read
  | rounds + 1, room, first, written, earlier, members, text, rest, stand, read => by
    rw [readMembers] at read
    split at read
    · cases read
    · rename_i next
      cases read
      exact ⟨written, .close (skipSpaces_of_nextKey next), stand⟩
    · rename_i next
      obtain ⟨more, separated, quote⟩ := separated_of_nextKey next
      split at read
      · cases read
      · rename_i name
        split at read
        · cases read
        · rename_i colon
          split at read
          · cases read
          · rename_i value
            obtain ⟨source, head, stands⟩ := spells_of_readValue rounds room value
            obtain ⟨sources, tail, others⟩ :=
              spells_of_readMembers rounds room (stand.insert stands) read
            exact ⟨sources, .member separated quote name (readColon_eq_ok_iff.mp colon) head tail,
              others⟩

end

/-! ### What is written is read -/

/-- No source starts as a list ends. -/
theorem Spells.head_ne {source : Source} (spells : Spells text source rest) :
    ∃ character more, text = character :: more ∧ character ≠ ']' := by
  cases spells with
  | null | true | false | string _ | list _ | mapping _ => exact ⟨_, _, rfl, by decide⟩
  | integer literal _ _ =>
    unfold signedText Literal.digits
    split
    · exact ⟨'-', _, rfl, by decide⟩
    · refine ⟨literal.first, _, rfl, ?_⟩
      rintro same
      exact absurd (literal.onlyDigits literal.first List.mem_cons_self) (by rw [same]; decide)
  | decimal onlyDigits _ _ =>
    unfold signedText
    split
    · exact ⟨'-', _, rfl, by decide⟩
    · refine ⟨_, _, rfl, ?_⟩
      rintro same
      exact absurd (onlyDigits _ List.mem_cons_self) (by rw [same]; decide)

mutual

theorem stands_of_readValue : (rounds room : Nat) → {text rest left : List Char} →
    {document : Json} → {source : Source} → readValue rounds room text = .ok (document, rest) →
    Spells (skipSpaces text) source left → left = rest ∧ source.Stands document
  | 0, _, _, _, _, _, _, read, _ => by
    rw [readValue] at read
    cases read
  | rounds + 1, room, text, rest, left, document, source, read, spells => by
    generalize shape : skipSpaces text = visible at spells
    cases spells with
    | null =>
      rw [readValue_null shape] at read
      cases read
      exact ⟨rfl, rfl⟩
    | true =>
      rw [readValue_true shape] at read
      cases read
      exact ⟨rfl, rfl⟩
    | false =>
      rw [readValue_false shape] at read
      cases read
      exact ⟨rfl, rfl⟩
    | integer literal digitEnds markEnds =>
      rw [readValue_number (literal.onlyDigits _ List.mem_cons_self) shape] at read
      obtain ⟨_, number, same⟩ := map_eq_ok_iff.mp read
      cases same
      obtain ⟨rfl, stands⟩ := literal.stands_of_readNumber digitEnds markEnds number
      exact ⟨rfl, stands⟩
    | @decimal negative first others after _ _ onlyDigits _ number =>
      have digits : skipSpaces text = signedText negative (first :: (others ++ after)) := shape
      rw [List.cons_append] at number
      rw [readValue_number (onlyDigits first List.mem_cons_self) digits, number] at read
      cases read
      exact ⟨rfl, rfl⟩
    | string string =>
      rw [readValue_string shape, string] at read
      cases read
      exact ⟨rfl, rfl⟩
    | list items =>
      rw [readValue_list shape] at read
      split at read
      · cases read
      · obtain ⟨_, list, same⟩ := map_eq_ok_iff.mp read
        cases same
        obtain ⟨rfl, later, stand, all⟩ := stand_of_readItems rounds (room - 1) list items
        exact ⟨rfl, later, congrArg Json.list all, stand⟩
    | mapping members =>
      rw [readValue_mapping shape] at read
      split at read
      · cases read
      · obtain ⟨_, mapping, same⟩ := map_eq_ok_iff.mp read
        cases same
        have none : Source.MembersStand [] [] := rfl
        obtain ⟨rfl, stand⟩ := stand_of_readMembers rounds (room - 1) none mapping members
        exact ⟨rfl, _, rfl, stand⟩

theorem stand_of_readItems : (rounds room : Nat) → {first : Bool} → {earlier items : List Json} →
    {text rest left : List Char} → {sources : List Source} →
    readItems rounds room first earlier text = .ok (items, rest) →
    SpellsItems first text sources left →
    left = rest ∧ ∃ later, Source.ItemsStand sources later ∧ items = earlier.reverse ++ later
  | 0, _, _, _, _, _, _, _, _, read, _ => by
    rw [readItems] at read
    cases read
  | rounds + 1, room, first, earlier, items, text, rest, left, sources, read, spells => by
    rw [readItems] at read
    cases spells with
    | close shape =>
      rw [nextItem_close shape] at read
      cases read
      exact ⟨rfl, [], rfl, (List.append_nil _).symm⟩
    | item separated head tail =>
      obtain ⟨character, others, shape, noEnd⟩ := head.head_ne
      rw [nextItem_item separated shape noEnd, ← shape] at read
      dsimp only at read
      split at read
      · cases read
      · rename_i item
        rw [← skipSpaces_skipSpaces] at head
        obtain ⟨rfl, stands⟩ := stands_of_readValue rounds room item head
        obtain ⟨rfl, later, stand, rfl⟩ := stand_of_readItems rounds room read tail
        refine ⟨rfl, _ :: later, ⟨_, later, rfl, stands, stand⟩, ?_⟩
        rw [List.reverse_cons, List.append_assoc, List.singleton_append]

theorem stand_of_readMembers : (rounds room : Nat) → {first : Bool} →
    {written sources : List (String × Source)} → {earlier members : List (String × Json)} →
    {text rest left : List Char} → Source.MembersStand written earlier →
    readMembers rounds room first earlier text = .ok (members, rest) →
    SpellsMembers first written text sources left →
    left = rest ∧ Source.MembersStand sources members
  | 0, _, _, _, _, _, _, _, _, _, _, read, _ => by
    rw [readMembers] at read
    cases read
  | rounds + 1, room, first, written, sources, earlier, members, text, rest, left, stand, read,
      spells => by
    rw [readMembers] at read
    cases spells with
    | close shape =>
      rw [nextKey_close shape] at read
      cases read
      exact ⟨rfl, stand⟩
    | member separated quote name shape head tail =>
      rw [nextKey_member separated quote] at read
      dsimp only at read
      rw [name] at read
      dsimp only at read
      rw [readColon_eq_ok_iff.mpr shape] at read
      dsimp only at read
      split at read
      · cases read
      · rename_i value
        obtain ⟨rfl, stands⟩ := stands_of_readValue rounds room value head
        exact stand_of_readMembers rounds room (stand.insert stands) read tail

end

/-! ### Texts -/

/-- A text that is read as a document is written as some source, and every source that it is written
as stands for this document. -/
theorem written_of_read {text : String} {document : Json} (read : Json.read text = .ok document) :
    (∃ source, IsWritten text source) ∧
      ∀ source, IsWritten text source → source.Stands document := by
  unfold Json.read located at read
  rw [mapError_eq_ok_iff] at read
  unfold finish at read
  split at read
  · cases read
  · rename_i value
    split at read
    · rename_i done
      cases read
      refine ⟨?_, ?_⟩
      · obtain ⟨source, spells, _⟩ := spells_of_readValue _ _ value
        exact ⟨source, _, spells, done⟩
      · rintro source ⟨rest, spells, _⟩
        exact (stands_of_readValue _ _ value spells).2
    · cases read

end Sieve.Json
