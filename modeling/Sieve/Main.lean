/-
The command. It gathers what a run may look at, the environment, a few files and
standard input where it is read, and leaves the rest to the program.
-/

import Sieve.Program

namespace Sieve.Main

open Sieve.Files (Found)

/-- What an error of the system says about a path, at which something is seen or not. -/
def foundOfError (seen : Bool) : IO.Error → Found
  | .inappropriateType _ 20 _ => .notDirectory
  | .inappropriateType _ _ _ => .directory
  | .invalidArgument _ 36 _ => .nameTooLong
  | .permissionDenied _ _ _ => if seen then .denied else .hidden
  | _ => .missing

/-- Looks at a path. -/
def look (path : List Char) : IO Found := do
  if path.any fun character => character.toNat = 0 then return .nulInName
  match ← (IO.FS.readBinFile (String.ofList path)).toBaseIO with
  | .ok contents => return .file contents
  | .error error =>
    let seen ← ((← IO.currentDir) / String.ofList path).pathExists
    return foundOfError seen error

/-- Looks at several paths, relative ones in a working directory. -/
def lookAll (work : List Char) (paths : List (List Char)) : IO (List (List Char × Found)) :=
  paths.mapM fun path => do
    let path := Files.join work path
    return (path, ← look path)

/-- The variables of the environment, from their text: each is a name, an equals sign and a
value, and ends with a zero byte. -/
def variablesOfText (text : String) : List (String × String) :=
  (text.splitOn (String.singleton (Char.ofNat 0))).filterMap fun entry =>
    match entry.splitOn "=" with
    | name :: value :: more => some (name, "=".intercalate (value :: more))
    | _ => none

/-- The variables of the environment: all of them where the system lists them, or else those that
the program reads. -/
def readEnvironment : IO (List (String × String)) := do
  let listing ← (IO.FS.readBinFile "/proc/self/environ").toBaseIO
  match listing.toOption.bind String.fromUTF8? with
  | some text => return variablesOfText text
  | none =>
    ("HOME" :: CommandLine.variableNames.map Prod.snd).filterMapM fun name => do
      return (← IO.getEnv name).map fun value => (name, value)

/-- The host before any file was looked at. -/
def bareHost : IO Host := do
  let work ← IO.currentDir
  let home := (← IO.getEnv "HOME").filter fun home => !home.isEmpty
  return { home := home.map String.toList
           work := work.toString.toList
           find := fun _ => .missing
           environment := ← readEnvironment
           input := ByteArray.empty }

/-- The host with some paths looked at. -/
def withFound (host : Host) (found : List (List Char × Found)) : Host :=
  { host with find := fun path => (found.lookup path).getD .missing }

/-- Prints what a run came to, and gives the code to leave with. -/
def report : Program.Outcome → IO UInt32
  | .printed text => do
    IO.print text
    return 0
  | .failed message => do
    IO.eprintln s!"\nError: {message}\n"
    return 1
  | .refused message => do
    IO.eprintln message
    return 2

end Sieve.Main

def main (words : List String) : IO UInt32 := do
  let bare ← Sieve.Main.bareHost
  let files ← Sieve.Main.lookAll bare.work (Sieve.Program.variablesPaths bare.work)
  let host := Sieve.Main.withFound bare files
  match Sieve.CommandLine.read (Sieve.Program.environment host) words with
  | .error _ => Sieve.Main.report (Sieve.Program.run host words)
  | .ok invocation =>
    let found ← Sieve.Main.lookAll host.work (Sieve.Program.paths host invocation)
    let input ←
      if Sieve.Program.readsInput invocation.command then (← IO.getStdin).readBinToEnd
      else pure ByteArray.empty
    let host := { Sieve.Main.withFound bare (files ++ found) with input := input }
    Sieve.Main.report (Sieve.Program.run host words)
