/-
Reading command lines. Words are taken one after another. An option waits for its
value, which may be attached to it or be the next word; what it is worth is only
looked at when the next argument begins, so a wrong word after it is reported
first. A command takes all the words after it, and is read to its end before what
stood in front of it is settled.

Three settings may also come from the environment. They are looked at when the
words are used up, for each level on its own, and only where the words of that
level did not set them.
-/

import Sieve.CommandLine.Usage

namespace Sieve.CommandLine

/-- What the words of one level have set. -/
structure Given where
  config : Option String
  maxDepth : Option Nat
  backend : Option Backend
  page : Option Nat
  limit : Option Nat
  file : Option String
  request : Bool
  compact : Bool

def Given.empty : Given :=
  ⟨none, none, none, none, none, none, false, false⟩

/-- Whether an argument is set already. -/
def Given.has (given : Given) : Argument → Bool
  | .config => given.config.isSome
  | .maxDepth => given.maxDepth.isSome
  | .backend => given.backend.isSome
  | .page => given.page.isSome
  | .limit => given.limit.isSome
  | .file => given.file.isSome

/-! ### Values -/

/-- A word as a number of 32 bits. -/
def readCount (argument : Argument) (word : String) : Except Stop Nat :=
  match Decimal.readInteger word.toList with
  | .error fault => .error (.fault (.wrongValue argument word (.numeral fault)))
  | .ok number =>
    if 0 ≤ number ∧ number < 2 ^ 32 then .ok number.toNat
    else .error (.fault (.wrongValue argument word (.outOfRange number)))

/-- A word as a number of 64 bits. -/
def readDepth (word : String) : Except Stop Nat :=
  (Decimal.readNatural (2 ^ 64 - 1) word.toList).mapError fun fault =>
    .fault (.wrongValue .maxDepth word (.numeral fault))

/-- A word as the name of a backend. -/
def readBackend (word : String) : Except Stop Backend :=
  match Backend.ofWord? word with
  | some backend => .ok backend
  | none => .error (.fault (.wrongValue .backend word (.unknownBackend word)))

/-- A word as a path, which must not be empty. -/
def readPath (argument : Argument) (word : String) : Except Stop String :=
  if word.isEmpty then .error (.fault (.missingValue argument)) else .ok word

/-- Sets an argument to what a word is worth. -/
def Given.set (given : Given) (argument : Argument) (word : String) : Except Stop Given :=
  match argument with
  | .config => (readPath .config word).map fun path => { given with config := some path }
  | .maxDepth => (readDepth word).map fun depth => { given with maxDepth := some depth }
  | .backend => (readBackend word).map fun backend => { given with backend := some backend }
  | .page => (readCount .page word).map fun page => { given with page := some page }
  | .limit => (readCount .limit word).map fun limit => { given with limit := some limit }
  | .file => (readPath .file word).map fun path => { given with file := some path }

/-- Sets an argument that was met on the command line: it has to have a value, and to be new. -/
def Given.accept (given : Given) (argument : Argument) : Option String → Except Stop Given
  | none => .error (.fault (.missingValue argument))
  | some word =>
    if given.has argument then .error (.fault (.repeated argument.shown))
    else given.set argument word

/-- Sets a switch. -/
def Given.turnOn (given : Given) : Switch → Except Stop Given
  | .request =>
    if given.request then .error (.fault (.repeated Switch.request.shown))
    else .ok { given with request := true }
  | .compact =>
    if given.compact then .error (.fault (.repeated Switch.compact.shown))
    else .ok { given with compact := true }
  | .help => .error .help
  | .version => .error .version

/-! ### Words -/

/-- What has been read of a level: what is settled, and the argument that is not yet. -/
structure Progress where
  given : Given
  pending : Option (Argument × Option String)
  fileSeen : Bool

def Progress.start : Progress :=
  ⟨.empty, none, false⟩

namespace Progress

/-- Whether the next word is the value of an option. -/
def isWaiting (progress : Progress) : Bool :=
  match progress.pending with
  | some (_, none) => true
  | _ => false

/-- Settles the pending argument. -/
def settle (progress : Progress) : Except Stop Given :=
  match progress.pending with
  | none => .ok progress.given
  | some (argument, word) => progress.given.accept argument word

/-- The progress once the pending argument is settled and another one is pending. -/
def await (progress : Progress) (argument : Argument) (word : Option String) :
    Except Stop Progress :=
  progress.settle.map fun given => { progress with given := given, pending := some (argument, word) }

/-- Takes an option: with an attached value it is settled at once. -/
def takeArgument (progress : Progress) (argument : Argument) : Option String → Except Stop Progress
  | none => progress.await argument none
  | some word =>
    match progress.settle with
    | .error stop => .error stop
    | .ok given =>
      (given.accept argument (some word)).map fun given =>
        { progress with given := given, pending := none }

/-- Takes a switch. -/
def takeSwitch (progress : Progress) (switch : Switch) : Except Stop Progress :=
  match progress.settle with
  | .error stop => .error stop
  | .ok given =>
    (given.turnOn switch).map fun given => { progress with given := given, pending := none }

/-- Takes a word with two hyphens in front: a name, and after an equals sign a value. -/
def takeLong (level : Level) (progress : Progress) (body : List Char) : Except Stop Progress :=
  let name := String.ofList (body.takeWhile (· ≠ '='))
  let value := match body.dropWhile (· ≠ '=') with
    | [] => none
    | _ :: rest => some (String.ofList rest)
  match level.flags.lookup name with
  | none => .error (.fault (.unknownArgument ("--" ++ name)))
  | some (.argument argument) => progress.takeArgument argument value
  | some (.switch switch) =>
    match value with
    | none => progress.takeSwitch switch
    | some word => .error (.fault (.unwantedValue switch word))

/-- The value that is attached to a letter. -/
def attached : List Char → Option String
  | [] => none
  | '=' :: rest => some (String.ofList rest)
  | rest => some (String.ofList rest)

/-- Takes the letters of a word with one hyphen in front. A letter with a value takes the rest of
the word for it. -/
def takeLetters (level : Level) : Progress → List Char → Except Stop Progress
  | progress, [] => .ok progress
  | progress, letter :: rest =>
    match level.letter? letter with
    | none => .error (.fault (.unknownArgument (String.ofList ['-', letter])))
    | some (.argument argument) => progress.takeArgument argument (attached rest)
    | some (.switch switch) =>
      match progress.takeSwitch switch with
      | .error stop => .error stop
      | .ok progress => takeLetters level progress rest

/-- Takes a word that stands for itself: the file of the command that compiles. -/
def takeWord (level : Level) (afterHyphens : Bool) (progress : Progress) (word : String) :
    Except Stop Progress :=
  match level with
  | .compile =>
    if progress.fileSeen then .error (.fault (.unknownArgument word))
    else (progress.await .file (some word)).map fun progress => { progress with fileSeen := true }
  | .operators => .error (.fault (.unknownArgument word))
  | .top =>
    if afterHyphens && ((commands.lookup word).isSome || decide (word = helpCommand)) then
      .error (.fault (.unknownArgument word))
    else .error (.fault (.unknownCommand word))

end Progress

/-- What the words after the command for help come to. -/
def readHelp : List String → Stop
  | [] => .help
  | first :: rest =>
    if (commands.lookup first).isSome || decide (first = helpCommand) then
      match rest with
      | [] => .help
      | second :: _ => .fault (.unknownCommand second)
    else .fault (.unknownCommand first)

/-! ### Levels -/

/-- The names of the variables that settings may come from. -/
def variableNames : List (Argument × String) :=
  [(.config, "STOCKROOM_CONFIG"), (.maxDepth, "STOCKROOM_MAX_DEPTH"),
   (.backend, "STOCKROOM_BACKEND")]

/-- Sets what the words left open from the environment. -/
def fill (environment : List (String × String)) :
    List (Argument × String) → Given → Except Stop Given
  | [], given => .ok given
  | (argument, name) :: rest, given =>
    if given.has argument then fill environment rest given
    else
      match environment.lookup name with
      | none => fill environment rest given
      | some word =>
        match given.set argument word with
        | .error stop => .error stop
        | .ok given => fill environment rest given

/-- What a level comes to: what its words set, and the same filled from the environment. -/
structure Settled where
  words : Given
  filled : Given

/-- Settles a level when its words are used up. A page or a limit is only taken for a request. -/
def Progress.finish (environment : List (String × String)) (progress : Progress) :
    Except Stop Settled :=
  match progress.settle with
  | .error stop => .error stop
  | .ok words =>
    match fill environment variableNames words with
    | .error stop => .error stop
    | .ok filled =>
      if (filled.page.isSome || filled.limit.isSome) && !filled.request then
        .error (.fault .requestMissing)
      else .ok ⟨words, filled⟩

/-- A level, and the level of the command in it with what that comes to. -/
structure Reading where
  own : Settled
  command : Option (Level × Settled)

/-- Reads the words of a level. -/
def readWords (environment : List (String × String)) :
    (level : Level) → (afterHyphens : Bool) → Progress → List String → Except Stop Reading
  | _, _, progress, [] => (progress.finish environment).map fun own => ⟨own, none⟩
  | level, true, progress, word :: rest =>
    match progress.takeWord level true word with
    | .error stop => .error stop
    | .ok progress => readWords environment level true progress rest
  | level, false, progress, word :: rest =>
    match if level = .top ∧ progress.isWaiting = false then commands.lookup word else none with
    | some command =>
      match readWords environment command false .start rest with
      | .error stop => .error stop
      | .ok inner =>
        (progress.finish environment).map fun own => ⟨own, some (command, inner.own)⟩
    | none =>
      if level = .top ∧ progress.isWaiting = false ∧ word = helpCommand then .error (readHelp rest)
      else
        match word.toList with
        | ['-', '-'] => readWords environment level true progress rest
        | '-' :: '-' :: body =>
          match progress.takeLong level body with
          | .error stop => .error stop
          | .ok progress => readWords environment level false progress rest
        | '-' :: letter :: letters =>
          match progress.takeLetters level (letter :: letters) with
          | .error stop => .error stop
          | .ok progress => readWords environment level false progress rest
        | _ =>
          match progress.pending with
          | some (argument, none) =>
            readWords environment level false
              { progress with pending := some (argument, some word) } rest
          | _ =>
            match progress.takeWord level false word with
            | .error stop => .error stop
            | .ok progress => readWords environment level false progress rest

/-! ### Invocations -/

/-- The settings of a command line: the words of the command win over the words before it, and
those over the environment. -/
def overrides (inner : Given) (outer : Settled) : Settings.Overrides where
  config := inner.config.or outer.filled.config
  maxDepth := inner.maxDepth.or outer.filled.maxDepth
  backend := inner.backend.or outer.filled.backend

/-- The command that a level asks for. -/
def command? (level : Level) (given : Given) : Option Command :=
  match level with
  | .top => none
  | .compile => some (.compile given.file ⟨given.request, given.page, given.limit⟩ given.compact)
  | .operators => some .operators

/-- What a reading asks for. -/
def Reading.invocation (reading : Reading) : Invocation :=
  match reading.command with
  | none => ⟨overrides .empty reading.own, none⟩
  | some (level, inner) => ⟨overrides inner.words reading.own, command? level inner.filled⟩

/-- Reads a command line in an environment. -/
def read (environment : List (String × String)) (words : List String) : Except Stop Invocation :=
  (readWords environment .top false .start words).map Reading.invocation

end Sieve.CommandLine
