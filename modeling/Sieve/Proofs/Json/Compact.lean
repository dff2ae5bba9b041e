/-
Reading compact texts back. The text of a document without floats stands for this document alone,
in front of any text at which a number ends: an escaped character is read as itself, an integer of
64 bits from its digits, and a container item by item or member by member, if no mapping has a key
twice. The rounds of the reader always suffice for that, since each of them takes a character. Its
room may not: a document that nests deeper than the reader allows is refused for its depth, and
for nothing else.
-/

import Sieve.Json.Writer
import Sieve.Proofs.Decimal.Numeral
import Sieve.Proofs.Json.Source

namespace Sieve.Json

/-! ### Strings -/

theorem hexValue?_digitChar : ∀ digit < 16, hexValue? (Nat.digitChar digit) = some digit := by
  decide

/-- The unit of a control is read as the control. -/
theorem readString_controlUnit {character : Char} (control : character.toNat < 0x20)
    (written rest : List Char) :
    readString .none written ('\\' :: 'u' :: '0' :: '0' ::
        Nat.digitChar (character.toNat / 16) :: Nat.digitChar (character.toNat % 16) :: rest) =
      readString .none (character :: written) rest := by
  have high := hexValue?_digitChar (character.toNat / 16) (by omega)
  have low := hexValue?_digitChar (character.toNat % 16) (by omega)
  have zero : hexValue? '0' = some 0 := by decide
  have whole : ((0 * 16 + 0) * 16 + character.toNat / 16) * 16 + character.toNat % 16 =
      character.toNat := by omega
  have noTrailing :
      (decide (0xDC00 ≤ character.toNat) && decide (character.toNat ≤ 0xDFFF)) = false := by
    rw [decide_eq_false (by omega), Bool.false_and]
  have noLeading : ¬(0xD800 ≤ character.toNat ∧ character.toNat ≤ 0xDBFF) := by omega
  rw [readString, if_neg (by decide), if_pos rfl, readString, if_pos rfl, readString, zero]
  dsimp only
  rw [if_pos (by decide), readString, zero]
  dsimp only
  rw [if_pos (by decide), readString, high]
  dsimp only
  rw [if_pos (by decide), readString, low]
  dsimp only
  rw [if_neg (by decide), whole, noTrailing, if_neg Bool.false_ne_true, if_neg noLeading,
    Char.ofNat_toNat]

theorem unescape?_controlLetter {character letter : Char}
    (named : controlLetter? character = some letter) :
    letter ≠ 'u' ∧ unescape? letter = some character := by
  have same : ∀ code : Nat, character.toNat = code → character = Char.ofNat code := by
    rintro code rfl
    exact (Char.ofNat_toNat character).symm
  unfold controlLetter? at named
  split_ifs at named with code code code code code <;> cases named
  all_goals
    rw [same _ code]
    decide

/-- An escaped character is read as itself. -/
theorem readString_escape (character : Char) (written rest : List Char) :
    readString .none written (escape character ++ rest) =
      readString .none (character :: written) rest := by
  unfold escape
  split
  · rename_i quote
    rw [quote]
    rfl
  split
  · rename_i backslash
    rw [backslash]
    rfl
  split
  · rename_i control
    split
    · rename_i letter named
      obtain ⟨noUnit, plain⟩ := unescape?_controlLetter named
      simp [readString, noUnit, plain]
    · exact readString_controlUnit control written rest
  · rename_i noQuote noBackslash noControl
    rw [List.singleton_append, readString, if_neg noQuote, if_neg noBackslash, if_neg noControl]

theorem readString_escaped (text written rest : List Char) :
    readString .none written (text.flatMap escape ++ '"' :: rest) =
      .ok (String.ofList (written.reverse ++ text), rest) := by
  induction text generalizing written with
  | nil =>
    rw [List.append_nil]
    rfl
  | cons character others inductionHypothesis =>
    rw [List.flatMap_cons, List.append_assoc, readString_escape, inductionHypothesis,
      List.reverse_cons, List.append_assoc, List.singleton_append]

/-- A string in its quotes is read back. -/
theorem stringText_append (text : String) (rest : List Char) :
    ∃ quoted, stringText text ++ rest = '"' :: quoted ∧
      readString .none [] quoted = .ok (text, rest) := by
  refine ⟨text.toList.flatMap escape ++ '"' :: rest, ?_, ?_⟩
  · rw [stringText, List.append_assoc]
    rfl
  · rw [readString_escaped, List.reverse_nil, List.nil_append, String.ofList_toList]

/-! ### Integers -/

/-- The literal that an integer is written as. The zero has no sign. -/
theorem Integer.exists_literal (number : Integer) :
    ∃ literal : Literal, Decimal.signed number.value = signedText literal.negative literal.digits ∧
      literal.value = number.value ∧ (literal.negative = true → literal.value ≠ 0) := by
  obtain ⟨first, others, digits⟩ : ∃ first others,
      Decimal.digits number.value.natAbs = first :: others :=
    List.exists_cons_of_ne_nil Nat.toDigits_ne_nil
  have onlyDigits : ∀ character ∈ first :: others, character.isDigit = true := by
    intro character member
    rw [← digits] at member
    exact Decimal.isDigit_of_mem_digits member
  have unpadded : first = '0' → others = [] := by
    rintro rfl
    exact Decimal.unpadded_digits digits
  have magnitude : Decimal.value (first :: others) = number.value.natAbs := by
    rw [← digits, Decimal.value_digits]
  unfold Decimal.signed
  by_cases negative : number.value < 0
  · have same : -(Decimal.value (first :: others) : Int) = number.value := by omega
    refine ⟨⟨true, first, others, onlyDigits, unpadded⟩, ?_, same, fun _ => ?_⟩
    · rw [if_pos negative, digits]
      rfl
    · exact same.trans_ne (Int.ne_of_lt negative)
  · have same : (Decimal.value (first :: others) : Int) = number.value := by omega
    refine ⟨⟨false, first, others, onlyDigits, unpadded⟩, ?_, same, fun signed => ?_⟩
    · rw [if_neg negative, digits]
      rfl
    · cases signed

/-- Where a number ends, neither a digit nor a mark follows. -/
def EndsNumber (rest : List Char) : Prop :=
  startsWithDigit rest = false ∧ startsWithMark rest = false

/-! ### Documents that their texts give back -/

/-- A document without floats in which no mapping has a key twice. -/
inductive IsExact : Json → Prop where
  | null : IsExact .null
  | bool (flag : Bool) : IsExact (.bool flag)
  | integer (number : Integer) : IsExact (.integer number)
  | string (text : String) : IsExact (.string text)
  | list {items : List Json} (each : ∀ item ∈ items, IsExact item) : IsExact (.list items)
  | mapping {members : List (String × Json)} (distinct : (Table.keys members).Nodup)
      (each : ∀ member ∈ members, IsExact member.2) : IsExact (.mapping members)

mutual

/-- The most containers of a document that are open at once. -/
def nesting : Json → Nat
  | .list items => 1 + greatestNesting items
  | .mapping members => 1 + greatestNestingOfMembers members
  | _ => 0

def greatestNesting : List Json → Nat
  | [] => 0
  | item :: rest => max (nesting item) (greatestNesting rest)

def greatestNestingOfMembers : List (String × Json) → Nat
  | [] => 0
  | (_, value) :: rest => max (nesting value) (greatestNestingOfMembers rest)

end

/-! ### Outcomes -/

/-- The outcome of reading what nests to a depth: the value, where there is room for it, and else
the stop of a container that is one too many. -/
inductive Nested {α : Type} (room depth : Nat) (value : α) (rest : List Char) :
    Reading α → Prop where
  | fits (enough : depth < room) : Nested room depth value rest (.ok (value, rest))
  | exceeds (stop : Stop) (cause : stop.cause = .tooDeep) (tooMuch : room ≤ depth) :
      Nested room depth value rest (.error stop)

/-- A container takes one room, and what it holds has the others. -/
theorem Nested.container {α β : Type} {room depth : Nat} {value : α} {rest : List Char}
    {outcome : Reading α} (inner : 1 < room → Nested (room - 1) depth value rest outcome)
    (make : α → β) (text : List Char) :
    Nested room (1 + depth) (make value) rest
      (if room ≤ 1 then stopBefore .tooDeep text
        else outcome.map fun read => (make read.1, read.2)) := by
  by_cases full : room ≤ 1
  · rw [if_pos full]
    exact .exceeds _ rfl (by omega)
  · rw [if_neg full]
    cases inner (Nat.lt_of_not_le full) with
    | fits enough => exact .fits (by omega)
    | exceeds stop cause tooMuch => exact .exceeds stop cause (by omega)

/-- What is read in two steps nests as deep as the deeper one of them. -/
theorem Nested.bind {α β : Type} {room first second : Nat} {value : α} {result : β}
    {middle rest : List Char} {outcome : Reading α} {next : α × List Char → Reading β}
    (head : Nested room first value middle outcome)
    (tail : Nested room second result rest (next (value, middle))) :
    Nested room (max first second) result rest (outcome.bind next) := by
  cases head with
  | exceeds stop cause tooMuch => exact .exceeds stop cause (le_max_of_le_left tooMuch)
  | fits enough =>
    show Nested room (max first second) result rest (next (value, middle))
    generalize next (value, middle) = outcome at tail ⊢
    cases tail with
    | exceeds stop cause tooMuch => exact .exceeds stop cause (le_max_of_le_right tooMuch)
    | fits enoughToo => exact .fits (max_lt enough enoughToo)

/-! ### How texts start -/

theorem isSpace_of_isDigit {character : Char} (digit : character.isDigit = true) :
    isSpace character = false := by
  by_contra blank
  rw [Bool.not_eq_false, isSpace] at blank
  simp only [Bool.or_eq_true, decide_eq_true_eq] at blank
  rcases blank with ((rfl | rfl) | rfl) | rfl <;> exact absurd digit (by decide)

/-- A document starts neither with a blank nor as a list ends. -/
theorem IsExact.exists_head {document : Json} (exact : document.IsExact) :
    ∃ character others, document.compactText = character :: others ∧
      isSpace character = false ∧ character ≠ ']' := by
  cases exact with
  | null => exact ⟨'n', _, rfl, by decide, by decide⟩
  | bool flag =>
    cases flag with
    | true => exact ⟨'t', _, rfl, by decide, by decide⟩
    | false => exact ⟨'f', _, rfl, by decide, by decide⟩
  | integer number =>
    obtain ⟨literal, written, -, -⟩ := number.exists_literal
    rw [compactText, written, signedText]
    split
    · exact ⟨'-', _, rfl, by decide, by decide⟩
    · have digit := literal.onlyDigits _ List.mem_cons_self
      refine ⟨literal.first, _, rfl, isSpace_of_isDigit digit, ?_⟩
      rintro same
      exact absurd digit (by rw [same]; decide)
  | string text => exact ⟨'"', _, rfl, by decide, by decide⟩
  | list _ => exact ⟨'[', _, rfl, by decide, by decide⟩
  | mapping _ _ => exact ⟨'\x7b', _, rfl, by decide, by decide⟩

theorem IsExact.length_pos {document : Json} (exact : document.IsExact) :
    0 < document.compactText.length := by
  obtain ⟨character, others, text, -, -⟩ := exact.exists_head
  rw [text]
  exact Nat.succ_pos _

theorem IsExact.exists_rounds {document : Json} (exact : document.IsExact) {rounds : Nat}
    (enough : document.compactText.length ≤ rounds) : ∃ fewer, rounds = fewer + 1 :=
  ⟨rounds - 1, (Nat.succ_pred_eq_of_pos (Nat.lt_of_lt_of_le exact.length_pos enough)).symm⟩

theorem IsExact.skipSpaces_append {document : Json} (exact : document.IsExact) (rest : List Char) :
    skipSpaces (document.compactText ++ rest) = document.compactText ++ rest := by
  obtain ⟨character, others, text, noBlank, -⟩ := exact.exists_head
  rw [text, List.cons_append]
  exact List.dropWhile_cons_of_neg (Bool.eq_false_iff.mp noBlank)

/-- A document is read back from its text in front of any text at which a number ends, if the
rounds are as many as its characters. -/
def ReadsBack (document : Json) : Prop :=
  ∀ {rounds room : Nat} {rest : List Char}, document.compactText.length ≤ rounds → 0 < room →
    EndsNumber rest →
      Nested room document.nesting document rest
        (readValue rounds room (document.compactText ++ rest))

/-! ### Items -/

/-- The text of items, either of all or of those after the first one. -/
def itemsText (first : Bool) (items : List Json) : List Char :=
  if first then compactItems items else compactMoreItems items

theorem separated_itemsText (first : Bool) (item : Json) (others : List Json) (rest : List Char) :
    Separated first (itemsText first (item :: others) ++ rest)
      (item.compactText ++ (compactMoreItems others ++ rest)) := by
  cases first with
  | true =>
    rw [itemsText, if_pos rfl, compactItems, List.append_assoc]
    exact .first _
  | false =>
    rw [itemsText, if_neg Bool.false_ne_true, compactMoreItems, List.append_assoc]
    exact .comma rfl

theorem length_itemsText (first : Bool) (item : Json) (others : List Json) :
    item.compactText.length + (compactMoreItems others).length ≤
      (itemsText first (item :: others)).length := by
  cases first with
  | true => rw [itemsText, if_pos rfl, compactItems, List.length_append]
  | false =>
    rw [itemsText, if_neg Bool.false_ne_true, compactMoreItems, List.cons_append,
      List.length_cons, List.length_append]
    omega

theorem endsNumber_items (items : List Json) (rest : List Char) :
    EndsNumber (compactMoreItems items ++ ']' :: rest) := by
  cases items with
  | nil => exact ⟨rfl, rfl⟩
  | cons item others => exact ⟨rfl, rfl⟩

theorem readItems_item {rounds room : Nat} {first : Bool} {earlier : List Json}
    {text more : List Char} (next : nextItem first text = .ok (true, more)) :
    readItems (rounds + 1) room first earlier text =
      (readValue rounds room more).bind fun read =>
        readItems rounds room false (read.1 :: earlier) read.2 := by
  rw [readItems, next]
  dsimp only
  cases readValue rounds room more with
  | error stop => rfl
  | ok read => rfl

/-- The items of a list are read back and put after those so far. -/
theorem readItems_append {items : List Json}
    (each : ∀ item ∈ items, item.IsExact ∧ item.ReadsBack)
    {rounds room : Nat} {first : Bool} (earlier : List Json) (rest : List Char)
    (enough : (itemsText first items).length < rounds) (some : 0 < room) :
    Nested room (greatestNesting items) (earlier.reverse ++ items) rest
      (readItems rounds room first earlier (itemsText first items ++ ']' :: rest)) := by
  induction items generalizing rounds first earlier with
  | nil =>
    have text : itemsText first [] = [] := by cases first <;> rfl
    obtain ⟨rounds, rfl⟩ := Nat.exists_eq_add_of_lt (Nat.zero_lt_of_lt enough)
    rw [text, List.nil_append, readItems, nextItem_close rfl, List.append_nil]
    exact .fits some
  | cons item others inductionHypothesis =>
    obtain ⟨⟨exact, back⟩, eachOther⟩ := List.forall_mem_cons.mp each
    have longer := length_itemsText first item others
    have visible := exact.length_pos
    obtain ⟨character, more, text, -, noEnd⟩ := exact.exists_head
    have shape : skipSpaces (item.compactText ++ (compactMoreItems others ++ ']' :: rest)) =
        character :: (more ++ (compactMoreItems others ++ ']' :: rest)) := by
      rw [exact.skipSpaces_append, text, List.cons_append]
    obtain ⟨rounds, rfl⟩ : ∃ fewer, rounds = fewer + 1 := ⟨rounds - 1, by omega⟩
    rw [readItems_item (nextItem_item (separated_itemsText first item others (']' :: rest)) shape
      noEnd), ← List.cons_append, ← text, greatestNesting]
    -- The item has a character at least, so enough rounds are left for the others.
    have fewer : (itemsText false others).length < rounds := by
      rw [itemsText, if_neg Bool.false_ne_true]
      omega
    have tail : Nested room (greatestNesting others) ((item :: earlier).reverse ++ others) rest
        (readItems rounds room false (item :: earlier) (compactMoreItems others ++ ']' :: rest)) :=
      inductionHypothesis eachOther (item :: earlier) fewer
    rw [List.reverse_cons, List.append_assoc, List.singleton_append] at tail
    exact (back (by omega) some (endsNumber_items others rest)).bind tail

/-! ### Members -/

/-- The text of members, either of all or of those after the first one. -/
def membersText (first : Bool) (members : List (String × Json)) : List Char :=
  if first then compactMembers members else compactMoreMembers members

theorem separated_membersText (first : Bool) (key : String) (value : Json)
    (others : List (String × Json)) (rest : List Char) :
    Separated first (membersText first ((key, value) :: others) ++ rest)
      (stringText key ++ ':' :: (value.compactText ++ (compactMoreMembers others ++ rest))) := by
  cases first with
  | true =>
    rw [membersText, if_pos rfl, compactMembers, List.append_assoc, List.append_assoc,
      List.cons_append]
    exact .first _
  | false =>
    rw [membersText, if_neg Bool.false_ne_true, compactMoreMembers, List.append_assoc,
      List.append_assoc, List.cons_append, List.cons_append]
    exact .comma rfl

theorem length_membersText (first : Bool) (key : String) (value : Json)
    (others : List (String × Json)) :
    value.compactText.length + (compactMoreMembers others).length <
      (membersText first ((key, value) :: others)).length := by
  cases first with
  | true =>
    rw [membersText, if_pos rfl, compactMembers]
    simp only [List.length_append, List.length_cons]
    omega
  | false =>
    rw [membersText, if_neg Bool.false_ne_true, compactMoreMembers]
    simp only [List.length_append, List.length_cons]
    omega

theorem endsNumber_members (members : List (String × Json)) (rest : List Char) :
    EndsNumber (compactMoreMembers members ++ '\x7d' :: rest) := by
  cases members with
  | nil => exact ⟨rfl, rfl⟩
  | cons member others => exact ⟨rfl, rfl⟩

theorem readMembers_member {rounds room : Nat} {first : Bool} {earlier : List (String × Json)}
    {text quoted colon more : List Char} {key : String}
    (next : nextKey first text = .ok (true, quoted))
    (name : readString .none [] quoted = .ok (key, colon)) (shape : readColon colon = .ok more) :
    readMembers (rounds + 1) room first earlier text =
      (readValue rounds room more).bind fun read =>
        readMembers rounds room false (Table.insert key read.1 earlier) read.2 := by
  rw [readMembers, next]
  dsimp only
  rw [name]
  dsimp only
  rw [shape]
  dsimp only
  cases readValue rounds room more with
  | error stop => rfl
  | ok read => rfl

/-- The members of a mapping are read back and put after those so far, if all keys are different. -/
theorem readMembers_append {members : List (String × Json)}
    (each : ∀ member ∈ members, member.2.ReadsBack)
    {rounds room : Nat} {first : Bool} (earlier : List (String × Json))
    (distinct : (Table.keys (earlier ++ members)).Nodup) (rest : List Char)
    (enough : (membersText first members).length < rounds) (some : 0 < room) :
    Nested room (greatestNestingOfMembers members) (earlier ++ members) rest
      (readMembers rounds room first earlier (membersText first members ++ '\x7d' :: rest)) := by
  induction members generalizing rounds first earlier with
  | nil =>
    have text : membersText first [] = [] := by cases first <;> rfl
    obtain ⟨rounds, rfl⟩ := Nat.exists_eq_add_of_lt (Nat.zero_lt_of_lt enough)
    rw [text, List.nil_append, readMembers, nextKey_close rfl, List.append_nil]
    exact .fits some
  | cons member others inductionHypothesis =>
    obtain ⟨key, value⟩ := member
    obtain ⟨back, eachOther⟩ : value.ReadsBack ∧ ∀ member ∈ others, member.2.ReadsBack :=
      List.forall_mem_cons.mp each
    have longer := length_membersText first key value others
    obtain ⟨rounds, rfl⟩ : ∃ fewer, rounds = fewer + 1 := ⟨rounds - 1, by omega⟩
    obtain ⟨quoted, quote, name⟩ := stringText_append key
      (':' :: (value.compactText ++ (compactMoreMembers others ++ '\x7d' :: rest)))
    have separated := separated_membersText first key value others ('\x7d' :: rest)
    rw [quote] at separated
    have fresh : key ∉ Table.keys earlier := Table.not_mem_of_nodup distinct
    rw [readMembers_member (nextKey_member separated rfl) name (readColon_eq_ok_iff.mpr rfl),
      greatestNestingOfMembers]
    have fewer : (membersText false others).length < rounds := by
      rw [membersText, if_neg Bool.false_ne_true]
      omega
    have tail : Nested room (greatestNestingOfMembers others)
        (earlier ++ [(key, value)] ++ others) rest
        (readMembers rounds room false (earlier ++ [(key, value)])
          (compactMoreMembers others ++ '\x7d' :: rest)) :=
      inductionHypothesis eachOther _ (by rwa [List.append_assoc]) fewer
    rw [List.append_assoc, List.singleton_append, ← Table.insert_of_not_mem fresh] at tail
    exact (back (by omega) some (endsNumber_members others rest)).bind tail

/-! ### Documents -/

theorem readsBack_integer (number : Integer) : ReadsBack (.integer number) := by
  intro rounds room rest enough some ends
  obtain ⟨rounds, rfl⟩ := (IsExact.integer number).exists_rounds enough
  obtain ⟨literal, written, same, noNegativeZero⟩ := number.exists_literal
  have read := literal.readNumber_eq_ok same noNegativeZero ends.1 ends.2
  have shape : skipSpaces (compactText (.integer number) ++ rest) =
      signedText literal.negative (literal.digits ++ rest) := by
    rw [(IsExact.integer number).skipSpaces_append, compactText, written, signedText, signedText]
    split <;> rfl
  rw [readValue_number (literal.onlyDigits _ List.mem_cons_self) shape]
  show Nested room 0 _ rest ((readNumber literal.negative (literal.digits ++ rest)).map _)
  rw [read]
  exact .fits some

theorem readsBack_list {items : List Json} (exact : ∀ item ∈ items, item.IsExact)
    (back : ∀ item ∈ items, item.ReadsBack) : ReadsBack (.list items) := by
  intro rounds room rest enough some _
  obtain ⟨rounds, rfl⟩ := (IsExact.list exact).exists_rounds enough
  have shape : compactText (.list items) ++ rest =
      '[' :: (itemsText true items ++ ']' :: rest) := by
    rw [compactText, List.append_assoc]
    rfl
  have fewer : (itemsText true items).length < rounds := by
    rw [compactText] at enough
    simp only [List.length_append, List.length_cons, List.length_nil] at enough
    rw [itemsText, if_pos rfl]
    omega
  rw [shape, readValue_list rfl, nesting]
  refine Nested.container (fun more => ?_) Json.list _
  exact readItems_append (fun item member => ⟨exact item member, back item member⟩) [] rest fewer
    (Nat.sub_pos_of_lt more)

theorem readsBack_mapping {members : List (String × Json)}
    (distinct : (Table.keys members).Nodup) (exact : ∀ member ∈ members, member.2.IsExact)
    (back : ∀ member ∈ members, member.2.ReadsBack) : ReadsBack (.mapping members) := by
  intro rounds room rest enough some _
  obtain ⟨rounds, rfl⟩ := (IsExact.mapping distinct exact).exists_rounds enough
  have shape : compactText (.mapping members) ++ rest =
      '\x7b' :: (membersText true members ++ '\x7d' :: rest) := by
    rw [compactText, List.append_assoc]
    rfl
  have fewer : (membersText true members).length < rounds := by
    rw [compactText] at enough
    simp only [List.length_append, List.length_cons, List.length_nil] at enough
    rw [membersText, if_pos rfl]
    omega
  rw [shape, readValue_mapping rfl, nesting]
  refine Nested.container (fun more => ?_) Json.mapping _
  exact readMembers_append back [] distinct rest fewer (Nat.sub_pos_of_lt more)

/-- Every exact document is read back, as deep as there is room. -/
theorem IsExact.readsBack {document : Json} (exact : document.IsExact) : document.ReadsBack := by
  induction exact with
  | null =>
    intro rounds room rest enough some _
    obtain ⟨rounds, rfl⟩ := IsExact.null.exists_rounds enough
    rw [readValue_null rfl]
    exact .fits some
  | bool flag =>
    intro rounds room rest enough some _
    obtain ⟨rounds, rfl⟩ := (IsExact.bool flag).exists_rounds enough
    cases flag with
    | true =>
      rw [readValue_true rfl]
      exact .fits some
    | false =>
      rw [readValue_false rfl]
      exact .fits some
  | integer number => exact readsBack_integer number
  | string text =>
    intro rounds room rest enough some _
    obtain ⟨rounds, rfl⟩ := (IsExact.string text).exists_rounds enough
    obtain ⟨quoted, quote, read⟩ := stringText_append text rest
    rw [compactText, quote, readValue_string rfl, read]
    exact .fits some
  | list each inductionHypothesis => exact readsBack_list each inductionHypothesis
  | mapping distinct each inductionHypothesis =>
    exact readsBack_mapping distinct each inductionHypothesis

/-- The compact text of an exact document is read as the document, unless that nests deeper than the
reader allows; then the text is refused for its depth. -/
theorem IsExact.read_compact {document : Json} (exact : document.IsExact) :
    (document.nesting < nestingRoom → read document.compact = .ok document) ∧
      (nestingRoom ≤ document.nesting →
        ∃ fault, read document.compact = .error fault ∧ fault.cause = .tooDeep) := by
  have text : document.compact.toList = document.compactText ++ [] := by
    simp [compact]
  have enough : document.compactText.length ≤ roundsFor document.compact.toList := by
    rw [roundsFor, text, List.append_nil]
    omega
  have outcome : Nested nestingRoom document.nesting document []
      (readValue (roundsFor document.compact.toList) nestingRoom document.compact.toList) := by
    rw [text] at enough ⊢
    exact exact.readsBack enough (by decide) ⟨rfl, rfl⟩
  unfold read
  dsimp only
  generalize readValue _ _ _ = value at outcome ⊢
  cases outcome with
  | fits enough =>
    refine ⟨fun _ => rfl, fun deep => ?_⟩
    exact absurd deep (Nat.not_le_of_lt enough)
  | exceeds stop cause tooMuch =>
    refine ⟨fun shallow => absurd tooMuch (Nat.not_le_of_lt shallow), fun _ => ?_⟩
    exact ⟨_, rfl, cause⟩

end Sieve.Json
