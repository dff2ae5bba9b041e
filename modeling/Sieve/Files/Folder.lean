/-
Folders held in memory. A folder is a tree of named entries; finding a path in it
goes from component to component. A component that is empty or a single point
stays where it is, two points go back to the folder before, and below a file there
is nothing.
-/

import Sieve.Files.Found
import Sieve.Files.Path

namespace Sieve.Files

inductive Entry where
  | file (contents : ByteArray)
  | folder (entries : List (List Char × Entry))

namespace Entry

/-- The entries of a folder; a file has none. -/
def entries : Entry → List (List Char × Entry)
  | .file _ => []
  | .folder entries => entries

/-- The entries with one of them put in the place of its name, or at the end. -/
def put (name : List Char) (entry : Entry) :
    List (List Char × Entry) → List (List Char × Entry)
  | [] => [(name, entry)]
  | (present, old) :: rest =>
    if present = name then (name, entry) :: rest else (present, old) :: put name entry rest

/-- The entry with another one put at the end of a way through its folders, which are made where
they are missing. -/
def insert (entry : Entry) (way : List (List Char)) (added : Entry) : Entry :=
  match way with
  | [] => added
  | name :: rest =>
    let inner := (entry.entries.lookup name).getD (.folder [])
    .folder (put name (insert inner rest added) entry.entries)

/-- Finds a way of components from a folder, with the folders before it, innermost first. -/
def walk : (before : List Entry) → Entry → List (List Char) → Found
  | _, .file contents, [] => .file contents
  | _, .folder _, [] => .directory
  | _, .file _, _ :: _ => .notDirectory
  | before, .folder entries, name :: rest =>
    if name = [] ∨ name = ['.'] then walk before (.folder entries) rest
    else if name = ['.', '.'] then
      match before with
      | [] => walk [] (.folder entries) rest
      | outer :: before => walk before outer rest
    else
      match entries.lookup name with
      | some entry => walk (.folder entries :: before) entry rest
      | none => if 255 < (String.ofList name).utf8ByteSize then .nameTooLong else .missing

/-- Finds an absolute path from the outermost folder. -/
def find (root : Entry) (path : List Char) : Found :=
  if path.any fun character => character.toNat = 0 then .nulInName
  else if 4096 ≤ (String.ofList path).utf8ByteSize then .nameTooLong
  else walk [] root (components path)

end Entry

end Sieve.Files
