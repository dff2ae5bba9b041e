/-
The command line: what it can say, and what it says wrong. There are options that
take a value, switches that do not, and two commands. Three of the options are
known to every command; the others belong to the command that compiles.
-/

import Sieve.Backend
import Sieve.Compiler
import Sieve.Decimal.Numeral
import Sieve.Text.Terminal

namespace Sieve.CommandLine

/-- The arguments that have a value. -/
inductive Argument where
  | config
  | maxDepth
  | backend
  | page
  | limit
  | file
deriving DecidableEq, Repr

def Argument.shown : Argument → String
  | .config => "--config <CONFIG>"
  | .maxDepth => "--max-depth <MAX_DEPTH>"
  | .backend => "--backend <BACKEND>"
  | .page => "--page <PAGE>"
  | .limit => "--limit <LIMIT>"
  | .file => "[FILE]"

/-- The arguments that have none. -/
inductive Switch where
  | request
  | compact
  | help
  | version
deriving DecidableEq, Repr

def Switch.shown : Switch → String
  | .request => "--request"
  | .compact => "--compact"
  | .help => "--help"
  | .version => "--version"

/-- What an option on the command line stands for. -/
inductive Flag where
  | argument (argument : Argument)
  | switch (switch : Switch)

/-- Where on the command line an argument stands: before any command, or after one. -/
inductive Level where
  | top
  | compile
  | operators
deriving DecidableEq, Repr

/-- The options that every level knows. -/
def sharedFlags : List (String × Flag) :=
  [("config", .argument .config), ("max-depth", .argument .maxDepth),
   ("backend", .argument .backend), ("help", .switch .help)]

/-- The options that a level knows, by their names. -/
def Level.flags : Level → List (String × Flag)
  | .top => ("version", .switch .version) :: sharedFlags
  | .compile =>
    [("request", .switch .request), ("page", .argument .page), ("limit", .argument .limit),
     ("compact", .switch .compact)] ++ sharedFlags
  | .operators => sharedFlags

/-- The option of a single letter. -/
def Level.letter? (level : Level) (letter : Char) : Option Flag :=
  if letter = 'c' then some (.argument .config)
  else if letter = 'b' then some (.argument .backend)
  else if letter = 'h' then some (.switch .help)
  else if letter = 'V' ∧ level = .top then some (.switch .version)
  else none

/-- The commands, by their names. -/
def commands : List (String × Level) :=
  [("compile", .compile), ("operators", .operators)]

/-- The name of the command that asks for help. -/
def helpCommand : String := "help"

/-! ### Faults -/

/-- Why a value is refused. -/
inductive ValueFault where
  | numeral (fault : Decimal.NumeralFault)
  | outOfRange (number : Int)
  | unknownBackend (word : String)

def ValueFault.message : ValueFault → String
  | .numeral fault => fault.message
  | .outOfRange number => s!"{number} is not in 0..=4294967295"
  | .unknownBackend word =>
    s!"Invalid backend '{word}'. Valid options: " ++ ", ".intercalate (Backend.all.map Backend.name)

/-- What is wrong with a command line. -/
inductive UsageFault where
  | unknownArgument (word : String)
  | unknownCommand (word : String)
  | missingValue (argument : Argument)
  | wrongValue (argument : Argument) (word : String) (fault : ValueFault)
  | repeated (shown : String)
  | unwantedValue (switch : Switch) (word : String)
  | requestMissing

/-- What is wrong, in words. -/
def UsageFault.complaint : UsageFault → String
  | .unknownArgument word => s!"unexpected argument '{Text.styled .wrong word}' found"
  | .unknownCommand word => s!"unrecognized subcommand '{Text.styled .wrong word}'"
  | .missingValue argument =>
    s!"a value is required for '{Text.styled .wrong argument.shown}' but none was supplied"
  | .wrongValue argument word fault =>
    s!"invalid value '{Text.styled .wrong word}' for '{Text.styled .literal argument.shown}': " ++
      fault.message
  | .repeated shown =>
    s!"the argument '{Text.styled .wrong shown}' cannot be used multiple times"
  | .unwantedValue switch word =>
    s!"unexpected value '{Text.styled .wrong word}' for " ++
      s!"'{Text.styled .literal switch.shown}' found; no more were expected"
  | .requestMissing => "the following required arguments were not provided:"

/-- A complaint as a terminal is given it, with the advice that ends every complaint. -/
def UsageFault.report (fault : UsageFault) : List Char :=
  (Text.styled .alarm "error:" ++ " " ++ fault.complaint ++
    "\n\nFor more information, try '" ++ Text.styled .literal "--help" ++ "'.\n").toList

/-- What is wrong, in one line. A word with a line end in it breaks the line off, and one that opens
a sequence may swallow what comes after it, up to a part of the advice. -/
def UsageFault.message (fault : UsageFault) : String :=
  String.ofList (Text.firstLine (Text.shown fault.report))

/-- What is wrong, in one line, with the sequences that a terminal follows. -/
def UsageFault.colouredMessage (fault : UsageFault) : String :=
  String.ofList (Text.firstLine fault.report)

/-- Why a command line is not carried out: it asks for help or for the version, or it is wrong. -/
inductive Stop where
  | help
  | version
  | fault (fault : UsageFault)

/-- The name of the program and its version. -/
def versionText : String := "stockroom 0.1.0"

/-! ### Invocations -/

/-- What the program is asked to do. -/
inductive Command where
  | compile (file : Option String) (options : Compiler.Options) (compact : Bool)
  | operators

/-- A command line that is understood. -/
structure Invocation where
  overrides : Settings.Overrides
  command : Option Command

end Sieve.CommandLine
