/-
Reading layers of settings. A layer is a document with two sections, each of which
may be missing; what else stands in the document is not looked at, but it has to
be a document. A value of the wrong type is refused at its place.
-/

import Sieve.Json.Record
import Sieve.Settings.Layer

namespace Sieve.Settings

open Sieve.Filter (Schema)
open Sieve.Json (Reading RecordField readOptional)

/-- Reads a schema: a mapping from fields to the names of targets. -/
def readSchema : (room : Nat) → List Char → Reading Schema :=
  Json.readTable (Json.readName Value.Target.named) Schema.insert Schema.empty

def filterFields : List (RecordField FilterSection) :=
  [{ name := "max_depth"
     read := fun _ part text =>
      (readOptional (Json.readBounded (2 ^ 64 - 1) "usize") text).map fun (value, rest) =>
        ({ part with maxDepth := value }, rest) },
   { name := "schema"
     read := fun room part text =>
      (readOptional (readSchema room) text).map fun (value, rest) =>
        ({ part with schema := value }, rest) }]

def searchFields : List (RecordField SearchSection) :=
  [{ name := "backend"
     read := fun room part text =>
      (readOptional (Json.readName Backend.named room) text).map fun (value, rest) =>
        ({ part with backend := value }, rest) },
   { name := "default_limit"
     read := fun _ part text =>
      (readOptional (Json.readBounded (2 ^ 32 - 1) "u32") text).map fun (value, rest) =>
        ({ part with defaultLimit := value }, rest) }]

def layerFields : List (RecordField Layer) :=
  [{ name := "filter"
     read := fun room layer text =>
      (readOptional
          (Json.readRecord "FilterFileConfig" filterFields .empty room) text).map
        fun (value, rest) => ({ layer with filter := value }, rest) },
   { name := "search"
     read := fun room layer text =>
      (readOptional
          (Json.readRecord "SearchFileConfig" searchFields .empty room) text).map
        fun (value, rest) => ({ layer with search := value }, rest) }]

/-- Reads a layer from a text. -/
def Layer.read (text : String) : Except Json.Fault Layer :=
  let characters := text.toList
  Json.located characters
    (Json.finish
      (Json.readDocumentRecord "FileConfig" layerFields .empty Json.nestingRoom characters))

/-- Reads a schema from a text. -/
def schemaOfText (text : String) : Except Json.Fault Schema :=
  let characters := text.toList
  Json.located characters (Json.finish (readSchema Json.nestingRoom characters))

end Sieve.Settings
