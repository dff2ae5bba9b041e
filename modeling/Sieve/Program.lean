/-
The program: from a host and the words of a command line to what is printed. The
variables of a file in the working directory, or in the nearest folder above it
that has one, are added to the environment before the words are read. The settings
are loaded before the input is looked at, also where nothing is compiled.
-/

import Sieve.CommandLine.Reader
import Sieve.CommandLine.Variables
import Sieve.Json.Writer
import Sieve.Settings.Load

namespace Sieve.Program

open Sieve.CommandLine (Command Invocation)
open Sieve.Files (Found ReadFault)

/-- What a run comes to: a text is printed, the work fails, or the words are refused. -/
inductive Outcome where
  | printed (text : String)
  | failed (message : String)
  | refused (message : String)

/-! ### The environment -/

/-- The name of files of variables. -/
def variablesFile : List Char := ".env".toList

/-- A folder and the folders above it, innermost first. -/
def ancestors (rounds : Nat) (folder : List Char) : List (List Char) :=
  match rounds with
  | 0 => [folder]
  | rounds + 1 =>
    let above := (folder.reverse.dropWhile (· ≠ '/')).drop 1 |>.reverse
    if folder = ['/'] ∨ folder = [] then [folder]
    else folder :: ancestors rounds (if above.isEmpty then ['/'] else above)

/-- The paths where a file of variables may be, nearest first. -/
def variablesPaths (work : List Char) : List (List Char) :=
  (ancestors work.length work).map fun folder => Files.join folder variablesFile

/-- The first file in some paths. Anything that is in the way ends the search but a folder. -/
def firstFile (host : Host) : List (List Char) → Option ByteArray
  | [] => none
  | path :: rest =>
    match host.lookup path with
    | .file contents => some contents
    | .directory => firstFile host rest
    | .missing => firstFile host rest
    | _ => none

/-- The variables of a host, those of its file included. -/
def environment (host : Host) : List (String × String) :=
  match firstFile host (variablesPaths host.work) with
  | none => host.environment
  | some contents => CommandLine.withFile host.environment (Files.leadingText contents)

/-! ### Commands -/

/-- Why an input cannot be read. -/
def inputMessage (file : Option String) (fault : ReadFault) : String :=
  match file with
  | some path => s!"Failed to read filter file: {path}: {fault.message}"
  | none => s!"Failed to read filter from stdin: {fault.message}"

/-- Compiles a file, or standard input where none is named. -/
def compileFile (host : Host) (settings : Settings) (file : Option String)
    (options : Compiler.Options) (compact : Bool) : Outcome :=
  match host.readText file with
  | .error fault => .failed (inputMessage file fault)
  | .ok text =>
    match Compiler.compile settings options text with
    | .error fault => .failed fault.message
    | .ok document =>
      .printed ((if compact then document.compact else document.indented) ++ "\n")

/-- Carries out a command; without one, standard input is compiled. -/
def execute (host : Host) (settings : Settings) : Option Command → Outcome
  | none => compileFile host settings none .plain false
  | some (.compile file options compact) => compileFile host settings file options compact
  | some .operators => .printed Filter.Registry.standard.listing

/-- Carries out an invocation. -/
def invoke (host : Host) (invocation : Invocation) : Outcome :=
  match Settings.load host invocation.overrides with
  | .error fault => .failed fault.message
  | .ok settings => execute host settings invocation.command

/-- The words of the help. -/
def helpText : String :=
  "Inventory search filter compiler\n\n" ++
    "Usage: stockroom [OPTIONS] [COMMAND]\n\n" ++
    "Commands:\n" ++
    "  compile    Parse a filter and print the compiled query (default command)\n" ++
    "  operators  List registered filter operators\n" ++
    "  help       Print this message or the help of the given subcommand(s)\n"

/-! ### What a run looks at -/

/-- The file that a command compiles. -/
def inputFile? : Option Command → Option String
  | some (.compile file _ _) => file
  | _ => none

/-- Whether a command reads standard input. -/
def readsInput : Option Command → Bool
  | none => true
  | some (.compile none _ _) => true
  | some (.compile (some path) _ _) => Host.isInputMark path
  | some .operators => false

/-- The paths that an invocation may look at. -/
def paths (host : Host) (invocation : Invocation) : List (List Char) :=
  (Settings.profilePath? host).toList ++ [Settings.overlayPath host invocation.overrides.config] ++
    ((inputFile? invocation.command).map host.expand).toList

/-- Whether complaints are written in colours: the environment may force them, and forbid them. -/
def wantsColours (known : List (String × String)) : Bool :=
  let isGiven (name : String) := (known.lookup name).any fun value => !value.isEmpty
  isGiven "CLICOLOR_FORCE" && !isGiven "NO_COLOR"

/-- Runs the program. -/
def run (host : Host) (words : List String) : Outcome :=
  let known := environment host
  match CommandLine.read known words with
  | .error .help => .printed helpText
  | .error .version => .printed (CommandLine.versionText ++ "\n")
  | .error (.fault fault) =>
    .refused (if wantsColours known then fault.colouredMessage else fault.message)
  | .ok invocation => invoke host invocation

end Sieve.Program
