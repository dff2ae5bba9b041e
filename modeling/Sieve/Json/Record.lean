/-
Reading records: mappings with known fields. Fields may come in any order, members
with other names are passed over, and a field may be given once. A record may also
be written as a list of all of its fields in their order.
-/

import Sieve.Json.Expect

namespace Sieve.Json

/-- A field of a record: its name, and how its value is read into the record. -/
structure RecordField (σ : Type) where
  name : String
  read : (room : Nat) → σ → List Char → Reading σ

/-- The text after the end of a mapping, if that is what comes next. -/
def afterMapping (text : List Char) : List Char :=
  match skipSpaces text with
  | '\x7d' :: rest => rest
  | rest => rest

/-- What has to follow the last field in a list. -/
def readListEnd (text : List Char) : Except Stop (List Char) :=
  match skipSpaces text with
  | [] => stopAt .endInList []
  | ']' :: rest => .ok rest
  | ',' :: rest =>
    match skipSpaces rest with
    | ']' :: rest => stopBefore .trailingComma (']' :: rest)
    | rest => stopBefore .trailingCharacters rest
  | rest => stopBefore .trailingCharacters rest

/-- Reads the fields of a record from a list. -/
def readFields {σ : Type} (expected : String) (room : Nat) (count : Nat) :
    List (RecordField σ) → σ → List Char → Reading σ
  | [], record, text => (readListEnd text).map fun rest => (record, rest)
  | field :: fields, record, text =>
    match nextItem (decide (count = 0)) text with
    | .error stop => .error stop
    | .ok (false, rest) => stopAt (.wrongLength count expected) rest
    | .ok (true, rest) =>
      match field.read room record rest with
      | .error stop => .error stop
      | .ok (record, rest) => readFields expected room (count + 1) fields record rest

/-- Reads the members of a record, given the names that were seen. -/
def readNamedFields {σ : Type} (fields : List (RecordField σ))
    (other : List Char → Except Stop (List Char)) (room : Nat) :
    (rounds : Nat) → (seen : List String) → σ → List Char → Reading σ
  | 0, _, _, text => stopAt .endInMapping text
  | rounds + 1, seen, record, text =>
    match nextKey seen.isEmpty text with
    | .error stop => .error stop
    | .ok (false, rest) => .ok (record, rest)
    | .ok (true, rest) =>
      match readString .none [] rest with
      | .error stop => .error stop
      | .ok (key, rest) =>
        match fields.find? fun field => field.name = key with
        | none =>
          match (readColon rest).bind other with
          | .error stop => .error stop
          | .ok rest => readNamedFields fields other room rounds (key :: seen) record rest
        | some field =>
          if key ∈ seen then stopAt (.repeatedField key) (afterMapping rest)
          else
            match (readColon rest).bind (field.read room record) with
            | .error stop => .error stop
            | .ok (record, rest) =>
              readNamedFields fields other room rounds (key :: seen) record rest

/-- Reads a record from a mapping. -/
def readMappedRecord {σ : Type} (fields : List (RecordField σ))
    (other : (room : Nat) → List Char → Except Stop (List Char)) (start : σ) (room : Nat)
    (text : List Char) : Reading σ :=
  if room ≤ 1 then stopBefore .tooDeep text
  else
    readNamedFields fields (other (room - 1)) (room - 1) (roundsFor text) [] start (text.drop 1)

/-- Reads a record from a mapping or a list. -/
def readRecord {σ : Type} (name : String) (fields : List (RecordField σ)) (start : σ) (room : Nat)
    (text : List Char) : Reading σ :=
  match skipSpaces text with
  | [] => stopAt .endInValue []
  | '[' :: rest =>
    if room ≤ 1 then stopBefore .tooDeep ('[' :: rest)
    else
      readFields s!"struct {name} with {fields.length} elements" (room - 1) 0 fields start rest
  | '\x7b' :: rest => readMappedRecord fields (fun _ => skipValue) start room ('\x7b' :: rest)
  | rest => refuse s!"struct {name}" rest

/-- Reads a record that has to be a mapping, and whose other members have to be documents. -/
def readDocumentRecord {σ : Type} (name : String) (fields : List (RecordField σ)) (start : σ)
    (room : Nat) (text : List Char) : Reading σ :=
  match skipSpaces text with
  | [] => stopAt .endInValue []
  | '\x7b' :: rest =>
    readMappedRecord fields
      (fun room text => (readValue (roundsFor text) room text).map Prod.snd) start room
      ('\x7b' :: rest)
  | rest => refuse s!"struct {name}" rest

end Sieve.Json
