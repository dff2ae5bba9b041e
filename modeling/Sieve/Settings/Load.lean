/-
Where settings come from. A profile in the home directory is read first, if there
is one; over it goes the file that the command line names, which has to be there,
or else the file in the working directory, if there is one.
-/

import Sieve.Host
import Sieve.Settings.Basic
import Sieve.Settings.Reader

namespace Sieve.Settings

open Sieve.Files (ReadFault)

/-- The name of settings files. -/
def fileName : List Char := "stockroom.json".toList

/-- The folder of the profile in the home directory. -/
def profileFolder : List Char := ".stockroom".toList

inductive LoadFault where
  | missing (path : List Char)
  | unreadable (path : List Char) (fault : ReadFault)
  | unparsable (path : List Char) (fault : Json.Fault)
  | outOfRange (fault : RangeFault)

def LoadFault.message : LoadFault → String
  | .missing path => s!"Config file not found: {String.ofList path}"
  | .unreadable path fault =>
    s!"Failed to read config file: {String.ofList path}: {fault.message}"
  | .unparsable path fault =>
    s!"Failed to parse config file: {String.ofList path}: {fault.message}"
  | .outOfRange fault => fault.message

/-- The layer in a file. -/
def loadLayer (host : Host) (path : List Char) : Except LoadFault Layer :=
  match (host.lookup path).text with
  | .error fault => .error (.unreadable path fault)
  | .ok text => (Layer.read text).mapError (.unparsable path)

/-- The layer in a file that may be missing. -/
def loadOptionalLayer (host : Host) (path : List Char) : Except LoadFault Layer :=
  if (host.lookup path).isThere then loadLayer host path else .ok .empty

/-- The path of the profile. -/
def profilePath? (host : Host) : Option (List Char) :=
  host.home.map fun home => Files.join (Files.join home profileFolder) fileName

def loadProfile (host : Host) : Except LoadFault Layer :=
  match profilePath? host with
  | none => .ok .empty
  | some path => loadOptionalLayer host path

/-- The path of the layer over the profile. -/
def overlayPath (host : Host) (named : Option String) : List Char :=
  match named with
  | none => fileName
  | some named => host.expand named

/-- The layer over the profile. -/
def loadOverlay (host : Host) (named : Option String) : Except LoadFault Layer :=
  let path := overlayPath host named
  if named.isNone then loadOptionalLayer host path
  else if (host.lookup path).isThere then loadLayer host path
  else .error (.missing path)

/-- The settings of a host with the given overrides. -/
def load (host : Host) (overrides : Overrides) : Except LoadFault Settings :=
  match loadProfile host with
  | .error fault => .error fault
  | .ok profile =>
    match loadOverlay host overrides.config with
    | .error fault => .error fault
    | .ok overlay => (resolve overrides (profile.merge overlay)).mapError .outOfRange

end Sieve.Settings
