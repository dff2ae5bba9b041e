/-
Reading values of a known type straight from the text. A number with a bound, a
name out of a list and a value that may be missing are each read in place, so a
fault is placed where the wrong value stands. A list or mapping in the place of
something else is refused before it is entered; any other wrong value is read
first.
-/

import Sieve.Json.Skip

namespace Sieve.Json

/-- A number as it is described in messages. -/
def Number.found : Number → Found
  | .integer number => .integer number.value
  | .float number => .float number.val

/-- Refuses the value at the start of the text because another type was wanted. -/
def refuse {α : Type} (expected : String) (text : List Char) : Except Stop α :=
  match text with
  | [] => stopAt .noValue []
  | character :: rest =>
    if character = 'n' then
      (readWord ['u', 'l', 'l'] rest).bind (stopAt (.wrongType .null expected))
    else if character = 't' then
      (readWord ['r', 'u', 'e'] rest).bind (stopAt (.wrongType (.bool true) expected))
    else if character = 'f' then
      (readWord ['a', 'l', 's', 'e'] rest).bind (stopAt (.wrongType (.bool false) expected))
    else if character = '-' then
      (readNumber true rest).bind fun (number, rest) =>
        stopAt (.wrongType number.found expected) rest
    else if character.isDigit then
      (readNumber false (character :: rest)).bind fun (number, rest) =>
        stopAt (.wrongType number.found expected) rest
    else if character = '"' then
      (readString .none [] rest).bind fun (found, rest) =>
        stopAt (.wrongType (.string found) expected) rest
    else if character = '[' then stopAt (.wrongType .list expected) text
    else if character = '\x7b' then stopAt (.wrongType .mapping expected) text
    else stopBefore .noValue text

/-- Checks that a number is a natural number up to a bound. -/
def checkBound (limit : Nat) (expected : String) : Number × List Char → Reading Nat
  | (.float number, rest) => stopAt (.wrongType (.float number.val) expected) rest
  | (.integer number, rest) =>
    if 0 ≤ number.value ∧ number.value ≤ limit then .ok (number.value.toNat, rest)
    else stopAt (.wrongInteger number.value expected) rest

/-- Reads a natural number up to a bound. -/
def readBounded (limit : Nat) (expected : String) (text : List Char) : Reading Nat :=
  match skipSpaces text with
  | [] => stopAt .endInValue []
  | character :: rest =>
    if character = '-' then (readNumber true rest).bind (checkBound limit expected)
    else if character.isDigit then
      (readNumber false (character :: rest)).bind (checkBound limit expected)
    else refuse expected (character :: rest)

/-- Reads a value or the word for none. -/
def readOptional {α : Type} (reader : List Char → Reading α) (text : List Char) :
    Reading (Option α) :=
  match skipSpaces text with
  | 'n' :: rest => (readWord ['u', 'l', 'l'] rest).map fun rest => (none, rest)
  | rest => (reader rest).map fun (value, rest) => (some value, rest)

/-- Looks a name up in a list of known ones. -/
def checkName {α : Type} (known : List (String × α)) : String × List Char → Reading α
  | (name, rest) =>
    match known.lookup name with
    | some value => .ok (value, rest)
    | none => stopAt (.unknownName name (known.map Prod.fst)) rest

/-- What has to follow a name that is the key of a mapping: the word for none and the end. -/
def readNameEnd (text : List Char) : Except Stop (List Char) := do
  let rest ← readColon text
  let rest ← match skipSpaces rest with
    | [] => stopAt .endInValue []
    | 'n' :: rest => readWord ['u', 'l', 'l'] rest
    | rest => refuse "unit" rest
  match skipSpaces rest with
  | [] => stopAt .endInMapping []
  | '\x7d' :: rest => .ok rest
  | rest => stopAt .noValue rest

/-- Reads one of a list of known names: a string, or a mapping from the name to nothing. -/
def readName {α : Type} (known : List (String × α)) (room : Nat) (text : List Char) : Reading α :=
  match skipSpaces text with
  | [] => stopAt .endInValue []
  | '"' :: rest => (readString .none [] rest).bind (checkName known)
  | '\x7b' :: rest =>
    if room ≤ 1 then stopBefore .tooDeep ('\x7b' :: rest)
    else
      match skipSpaces rest with
      | [] => stopAt .endInMapping []
      | '"' :: rest =>
        ((readString .none [] rest).bind (checkName known)).bind fun (value, rest) =>
          (readNameEnd rest).map fun rest => (value, rest)
      | '\x7d' :: rest => stopBefore .noValue ('\x7d' :: rest)
      | rest => stopBefore .keyIsNoString rest
  | rest => stopBefore .noValue rest

/-- Reads the text of one of a list of known names. -/
def readNameText {α : Type} (known : List (String × α)) (text : String) : Except Fault α :=
  let characters := text.toList
  located characters (finish (readName known nestingRoom characters))

/-- Reads the members of a mapping whose values are all of one type. The last value of a repeated
key wins, as `put` decides. -/
def readEntries {α σ : Type} (reader : List Char → Reading α) (put : String → α → σ → σ) :
    (rounds : Nat) → (first : Bool) → σ → List Char → Reading σ
  | 0, _, _, text => stopAt .endInMapping text
  | rounds + 1, first, entries, text =>
    match nextKey first text with
    | .error stop => .error stop
    | .ok (false, rest) => .ok (entries, rest)
    | .ok (true, rest) =>
      match readString .none [] rest with
      | .error stop => .error stop
      | .ok (key, rest) =>
        match (readColon rest).bind reader with
        | .error stop => .error stop
        | .ok (value, rest) => readEntries reader put rounds false (put key value entries) rest

/-- Reads a mapping whose values are all of one type. -/
def readTable {α σ : Type} (reader : Nat → List Char → Reading α) (put : String → α → σ → σ)
    (start : σ) (room : Nat) (text : List Char) : Reading σ :=
  match skipSpaces text with
  | [] => stopAt .endInValue []
  | '\x7b' :: rest =>
    if room ≤ 1 then stopBefore .tooDeep ('\x7b' :: rest)
    else readEntries (reader (room - 1)) put (roundsFor rest) true start rest
  | rest => refuse "a map" rest

end Sieve.Json
