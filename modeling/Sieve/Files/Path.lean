/-
Paths of files. A path is a text with slashes between its components; it is
absolute when it starts with one. Joining puts a path after another one, unless it
is absolute and stands for itself. Expanding makes a path that somebody typed
absolute: blanks around it are dropped, a leading tilde is the home directory, and
a relative path is meant in the working directory. Nothing else is changed; dots
and doubled slashes stay as they were typed.
-/

import Sieve.Text.Blank

namespace Sieve.Files

def isAbsolute (path : List Char) : Bool :=
  decide (path.head? = some '/')

/-- A path after another one. -/
def join (base path : List Char) : List Char :=
  if isAbsolute path || base.isEmpty then path
  else if base.getLast? = some '/' then base ++ path
  else base ++ '/' :: path

/-- The components of a path; a slash at the end leaves an empty one after it. -/
def components : List Char → List (List Char)
  | [] => [[]]
  | character :: rest =>
    if character = '/' then [] :: components rest
    else
      match components rest with
      | [] => [[character]]
      | first :: others => (character :: first) :: others

/-- A path in the home directory, if it starts with a tilde that stands alone. -/
def expandHome (home : Option (List Char)) (path : List Char) : List Char :=
  match home, path with
  | some home, ['~'] => home
  | some home, '~' :: '/' :: rest => join home rest
  | _, path => path

/-- The absolute path that somebody meant by a path. -/
def expand (home : Option (List Char)) (work : List Char) (path : List Char) : List Char :=
  match Text.trim path with
  | [] => work
  | path => join work (expandHome home path)

end Sieve.Files
