/-
Blank characters and trimming. A character is blank when it has the Unicode
property White_Space: twenty-five code points in ten ranges. Values, paths and
calendar fields that clients write by hand are trimmed by this rule, so a
no-break space around a number is as harmless as an ordinary one.
-/

namespace Sieve.Text

/-- The code points with the White_Space property, as closed ranges. -/
def blankRanges : List (Nat × Nat) :=
  [(0x09, 0x0D), (0x20, 0x20), (0x85, 0x85), (0xA0, 0xA0), (0x1680, 0x1680), (0x2000, 0x200A),
   (0x2028, 0x2029), (0x202F, 0x202F), (0x205F, 0x205F), (0x3000, 0x3000)]

/-- Whether a code point lies in one of the closed ranges. -/
def inRanges (ranges : List (Nat × Nat)) (code : Nat) : Bool :=
  ranges.any fun range => decide (range.1 ≤ code) && decide (code ≤ range.2)

def isBlank (character : Char) : Bool :=
  inRanges blankRanges character.toNat

/-- The text without its leading blanks. -/
def trimStart (text : List Char) : List Char :=
  text.dropWhile isBlank

/-- The text without its trailing blanks. -/
def trimEnd (text : List Char) : List Char :=
  (text.reverse.dropWhile isBlank).reverse

/-- The text without blanks at either end. -/
def trim (text : List Char) : List Char :=
  trimEnd (trimStart text)

theorem trimStart_of_head {character : Char} {rest : List Char} (solid : isBlank character = false) :
    trimStart (character :: rest) = character :: rest := by
  simp [trimStart, List.dropWhile, solid]

theorem isBlank_of_isDigit {character : Char} (digit : character.isDigit = true) :
    isBlank character = false := by
  rw [Char.isDigit, Bool.and_eq_true, decide_eq_true_iff, decide_eq_true_iff] at digit
  have lower : 48 ≤ character.toNat := digit.1
  have upper : character.toNat ≤ 57 := digit.2
  simp only [isBlank, inRanges, blankRanges, List.any_cons, List.any_nil, Bool.or_false,
    Bool.or_eq_false_iff, Bool.and_eq_false_iff, decide_eq_false_iff_not]
  omega

/-- A text with a blank at neither end has none to be trimmed. -/
theorem trim_of_ends {text : List Char}
    (head : ∃ first rest, text = first :: rest ∧ isBlank first = false)
    (last : ∃ others final, text = others ++ [final] ∧ isBlank final = false) :
    trim text = text := by
  obtain ⟨first, rest, start, solidFirst⟩ := head
  obtain ⟨others, final, finish, solidFinal⟩ := last
  have noBlank : ¬ isBlank final = true := Bool.eq_false_iff.mp solidFinal
  rw [trim, start, trimStart_of_head solidFirst, ← start, finish, trimEnd, List.reverse_concat,
    List.dropWhile_cons_of_neg noBlank, List.reverse_cons, List.reverse_reverse]

theorem dropWhile_of_solid {text : List Char}
    (solid : ∀ character ∈ text, isBlank character = false) : text.dropWhile isBlank = text := by
  cases text with
  | nil => rfl
  | cons first rest =>
    exact List.dropWhile_cons_of_neg (Bool.eq_false_iff.mp (solid first List.mem_cons_self))

/-- Blanks around a text without blanks are trimmed, and nothing else is. -/
theorem trim_surrounded {before text after : List Char}
    (blankBefore : ∀ character ∈ before, isBlank character = true)
    (solid : ∀ character ∈ text, isBlank character = false)
    (blankAfter : ∀ character ∈ after, isBlank character = true) :
    trim (before ++ text ++ after) = text := by
  have blankEnd : ∀ character ∈ after.reverse, isBlank character = true :=
    fun character member => blankAfter character (List.mem_reverse.mp member)
  have solidEnd : ∀ character ∈ text.reverse, isBlank character = false :=
    fun character member => solid character (List.mem_reverse.mp member)
  have start : trimStart (text ++ after) = text ++ after ∨
      text = [] ∧ trimStart (text ++ after) = [] := by
    cases text with
    | nil =>
      refine Or.inr ⟨rfl, ?_⟩
      rw [trimStart, List.nil_append, ← List.append_nil after,
        List.dropWhile_append_of_pos blankAfter, List.dropWhile_nil]
    | cons first rest => exact Or.inl (trimStart_of_head (solid first List.mem_cons_self))
  have skipped : trimStart (before ++ text ++ after) = trimStart (text ++ after) := by
    rw [List.append_assoc]
    exact List.dropWhile_append_of_pos blankBefore
  rw [trim, skipped]
  rcases start with start | ⟨empty, start⟩
  · rw [start, trimEnd, List.reverse_append, List.dropWhile_append_of_pos blankEnd,
      dropWhile_of_solid solidEnd, List.reverse_reverse]
  · rw [start, empty]
    rfl

end Sieve.Text
