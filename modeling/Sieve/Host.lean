/-
What surrounds the program: the home directory, the working directory, what is
found at absolute paths, the variables of the environment and the bytes on
standard input. The program is a function of its host and its arguments.
-/

import Sieve.Files.Found
import Sieve.Files.Path

namespace Sieve

open Sieve.Files (Found ReadFault)

structure Host where
  home : Option (List Char)
  work : List Char
  find : List Char → Found
  environment : List (String × String)
  input : ByteArray

namespace Host

/-- What is found at a path; a relative one is meant in the working directory. -/
def lookup (host : Host) (path : List Char) : Found :=
  host.find (Files.join host.work path)

/-- The absolute path that somebody meant by a path. -/
def expand (host : Host) (path : String) : List Char :=
  Files.expand host.home host.work path.toList

/-- Whether a path stands for standard input: a hyphen, with nothing after it but slashes and
single points. -/
def isInputMark (path : String) : Bool :=
  match Files.components path.toList with
  | [] => false
  | first :: rest =>
    decide (first = ['-']) && rest.all fun component => component = [] || component = ['.']

/-- The text of the file that somebody meant by a path, or of standard input. -/
def readText (host : Host) : Option String → Except ReadFault String
  | none => Files.decode host.input
  | some path =>
    if isInputMark path then Files.decode host.input
    else (host.lookup (host.expand path)).text

end Host

end Sieve
