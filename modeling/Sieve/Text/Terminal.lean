/-
What a terminal shows of a text. A terminal shows most characters, and follows the
others: the escape character opens a sequence that sets a colour, moves the cursor
or names a window, and a sequence is not shown. Messages repeat words as they were
given, and are written in colours themselves; where nobody follows the sequences,
they have to hold what would have been shown, and no more.

A sequence is cut short by another escape character, and by the characters that
cancel it. One that is never finished swallows the rest of the text. Characters
beyond the basic ones are no part of any sequence and are lost in it; but a string
also ends at one whose bytes hold the byte that ends strings.
-/

namespace Sieve.Text

/-- Where a terminal stands in a text. -/
inductive TerminalState where
  /-- Outside every sequence. -/
  | ground
  /-- After the escape character. -/
  | escape
  /-- In a sequence that announces a set of characters, or the like. -/
  | announcement
  /-- In a control sequence: one that begins with a bracket. -/
  | control
  /-- In a command to the system: one that ends with the bell. -/
  | command
  /-- At the start of a sequence for the device. -/
  | device
  /-- Among the parameters of a sequence for the device. -/
  | deviceParameters
  /-- After what announces the string for the device. -/
  | deviceAnnouncement
  /-- In a string, for the device or for nobody. -/
  | string
deriving DecidableEq, Repr

/-- The controls that lay a text out: they are shown, even from within a sequence. -/
def isLayout (character : Char) : Bool :=
  decide (character ∈ ['\t', '\n', '\x0c', '\r'])

/-- Whether a character lies in a range of code points. -/
def liesIn (first last : Nat) (character : Char) : Bool :=
  decide (first ≤ character.toNat) && decide (character.toNat ≤ last)

/-- Whether the bytes of a character hold the byte that ends strings. -/
def endsStrings (character : Char) : Bool :=
  decide (0x9C ∈ (String.utf8EncodeChar character).map UInt8.toNat)

namespace TerminalState

/-- Where the character after the escape character leads. -/
def opened (character : Char) : TerminalState :=
  if liesIn 0x20 0x2F character then .announcement
  else if character = '[' then .control
  else if character = ']' then .command
  else if character = 'P' then .device
  else if character ∈ ['X', '^', '_'] then .string
  else if liesIn 0x30 0x7E character || isLayout character then .ground
  else .escape

/-- Where a character leads. -/
def next (state : TerminalState) (character : Char) : TerminalState :=
  if character = '\x1b' then .escape
  else if character = '\x18' ∨ character = '\x1a' then .ground
  else
    match state with
    | .ground => .ground
    | .escape => opened character
    | .announcement =>
      if liesIn 0x30 0x7E character || isLayout character then .ground else .announcement
    | .control => if liesIn 0x40 0x7E character || isLayout character then .ground else .control
    | .command => if character = '\x07' then .ground else .command
    | .device =>
      if liesIn 0x20 0x2F character then .deviceAnnouncement
      else if liesIn 0x30 0x3F character then .deviceParameters
      else if liesIn 0x40 0x7E character then .string
      else .device
    | .deviceParameters =>
      if liesIn 0x20 0x2F character then .deviceAnnouncement
      else if liesIn 0x3C 0x7E character then .string
      else .deviceParameters
    | .deviceAnnouncement =>
      if liesIn 0x30 0x7E character then .string else .deviceAnnouncement
    | .string => if endsStrings character then .ground else .string

/-- Whether a character is shown. -/
def shows (state : TerminalState) (character : Char) : Bool :=
  match state with
  | .ground =>
    isLayout character || decide (0x20 ≤ character.toNat) && decide (character ≠ '\x7f')
  | .escape => isLayout character
  | .announcement => isLayout character
  | .control => isLayout character
  | _ => false

end TerminalState

/-- What is shown of the rest of a text. -/
def shownFrom : TerminalState → List Char → List Char
  | _, [] => []
  | state, character :: rest =>
    if state.shows character then character :: shownFrom (state.next character) rest
    else shownFrom (state.next character) rest

/-- What is shown of a text. -/
def shown (text : List Char) : List Char :=
  shownFrom .ground text

/-! ### Styles and lines -/

/-- How a part of a message stands out. -/
inductive Style where
  /-- The word that announces an error: bold and red. -/
  | alarm
  /-- What is wrong: yellow. -/
  | wrong
  /-- What is to be written as it stands: bold. -/
  | literal
deriving DecidableEq, Repr

/-- The sequences that turn a style on. -/
def Style.opening : Style → String
  | .alarm => "\x1b[1m\x1b[31m"
  | .wrong => "\x1b[33m"
  | .literal => "\x1b[1m"

/-- A text in a style, which is turned off after it. -/
def styled (style : Style) (text : String) : String :=
  style.opening ++ text ++ "\x1b[0m"

/-- The first line of a text, without its end. -/
def firstLine (text : List Char) : List Char :=
  let line := text.takeWhile (· ≠ '\n')
  if line.length < text.length ∧ line.getLast? = some '\r' then line.dropLast else line

end Sieve.Text
