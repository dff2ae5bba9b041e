/-
Reading quoted text. The reader starts at an opening quote and takes characters until the quote
that closes the text. Of a quote alone it cannot tell whether the text is at its end, so it looks
one character ahead: another quote there makes the two of them one quote of the contents, and
anything else, or nothing at all, is behind the end.

What is read off a text in this way is what was enclosed at its beginning, and what is enclosed
is read off, whatever runs of quotes the contents begin and end with, as long as no quote comes
right behind. So enclosing is the only way to write contents down, and none of it is ambiguous.
-/

import Sieve.Text.Doubled

namespace Sieve.Text

/-- Reads on inside of quotes: the contents up to the closing quote, and the text behind it. -/
def readInside (quote : Char) : List Char → Option (List Char × List Char)
  | [] => none
  | [character] => if character = quote then some ([], []) else none
  | character :: next :: rest =>
    if character = quote then
      if next = quote then (readInside quote rest).map (Prod.map (quote :: ·) id)
      else some ([], next :: rest)
    else (readInside quote (next :: rest)).map (Prod.map (character :: ·) id)

/-- Reads quoted text: its contents, and the text behind it. -/
def readEnclosed (quote : Char) : List Char → Option (List Char × List Char)
  | [] => none
  | character :: rest => if character = quote then readInside quote rest else none

variable {quote : Char} {text contents rest : List Char}

theorem readInside_cons {character : Char} (other : character ≠ quote) :
    readInside quote (character :: text) =
      (readInside quote text).map (Prod.map (character :: ·) id) := by
  cases text with
  | nil => simp [readInside, other]
  | cons next rest => rw [readInside, if_neg other]

theorem readInside_quote (ended : rest.head? ≠ some quote) :
    readInside quote (quote :: rest) = some ([], rest) := by
  cases rest with
  | nil => simp [readInside]
  | cons next rest =>
    have other : next ≠ quote := by simpa using ended
    simp [readInside, other]

/-- The reader comes out of doubled contents at the quote behind them. -/
theorem readInside_double (contents : List Char) (ended : rest.head? ≠ some quote) :
    readInside quote (double quote contents ++ quote :: rest) = some (contents, rest) := by
  induction contents with
  | nil => exact readInside_quote ended
  | cons character contents inductionHypothesis =>
    rw [double]
    by_cases same : character = quote
    · rw [if_pos same, List.cons_append, List.cons_append, readInside, if_pos rfl, if_pos rfl,
        inductionHypothesis, same]
      rfl
    · rw [if_neg same, List.cons_append, readInside_cons same, inductionHypothesis]
      rfl

/-- What has been read was doubled, and the quote behind it was not. -/
theorem double_of_readInside (read : readInside quote text = some (contents, rest)) :
    text = double quote contents ++ quote :: rest ∧ rest.head? ≠ some quote := by
  fun_induction readInside quote text generalizing contents with
  | case1 => cases read
  | case2 =>
    cases read
    simp [double]
  | case3 => cases read
  -- two quotes
  | case4 tail inductionHypothesis =>
    obtain ⟨⟨inner, behind⟩, further, same⟩ := Option.map_eq_some_iff.mp read
    cases same
    obtain ⟨spelled, ended⟩ := inductionHypothesis further
    exact ⟨by simp [double, spelled], ended⟩
  -- the closing quote
  | case5 next tail other =>
    cases read
    exact ⟨rfl, by simpa using other⟩
  | case6 character next tail other inductionHypothesis =>
    obtain ⟨⟨inner, behind⟩, further, same⟩ := Option.map_eq_some_iff.mp read
    cases same
    obtain ⟨spelled, ended⟩ := inductionHypothesis further
    exact ⟨by simp [double, other, spelled], ended⟩

/-- What is read off a text is what was enclosed at its beginning, with no quote right behind. -/
theorem readEnclosed_eq_some_iff :
    readEnclosed quote text = some (contents, rest) ↔
      text = enclose quote contents ++ rest ∧ rest.head? ≠ some quote := by
  constructor
  · intro read
    cases text with
    | nil => cases read
    | cons character tail =>
      by_cases opening : character = quote
      · rw [readEnclosed, if_pos opening] at read
        obtain ⟨rfl, ended⟩ := double_of_readInside read
        exact ⟨by simp [enclose, opening], ended⟩
      · rw [readEnclosed, if_neg opening] at read
        cases read
  · rintro ⟨rfl, ended⟩
    simp [enclose, readEnclosed, readInside_double contents ended]

end Sieve.Text
