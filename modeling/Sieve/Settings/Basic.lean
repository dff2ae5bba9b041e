/-
Settings, once all layers are known. What the command line or the environment says
comes first, then the merged layers, then the defaults. Only the outcome has to be
in range: a value that is overridden may be anything.
-/

import Sieve.Filter.Reader
import Sieve.Settings.Layer

namespace Sieve.Settings

open Sieve.Filter (Schema)

/-- What the command line and the environment say. -/
structure Overrides where
  config : Option String
  maxDepth : Option Nat
  backend : Option Backend

def Overrides.empty : Overrides :=
  ⟨none, none, none⟩

/-- Which setting is out of range, and its value. -/
inductive RangeFault where
  | maxDepth (value : Nat)
  | defaultLimit (value : Nat)
deriving DecidableEq, Repr

/-- The deepest nesting that can be set. -/
def greatestDepth : Nat := 64

/-- The page size where nothing else is said. -/
def standardPage : Nat := 50

/-- The largest page size that can be set. -/
def largestPage : Nat := 500

def RangeFault.message : RangeFault → String
  | .maxDepth value =>
    s!"Configuration error: filter.max_depth must be between 1 and {greatestDepth}, got {value}"
  | .defaultLimit value =>
    s!"Configuration error: search.default_limit must be between 1 and {largestPage}, got {value}"

end Settings

/-- The settings that filters are compiled with. -/
structure Settings where
  maxDepth : Nat
  schema : Filter.Schema
  backend : Backend
  defaultLimit : Nat

namespace Settings

/-- Refuses settings that are out of range. -/
def validate (settings : Settings) : Except RangeFault Settings :=
  if ¬(1 ≤ settings.maxDepth ∧ settings.maxDepth ≤ greatestDepth) then
    .error (.maxDepth settings.maxDepth)
  else if ¬(1 ≤ settings.defaultLimit ∧ settings.defaultLimit ≤ largestPage) then
    .error (.defaultLimit settings.defaultLimit)
  else .ok settings

/-- The settings that overrides and merged layers amount to, whatever they are. -/
def ofLayer (overrides : Overrides) (layer : Layer) : Settings :=
  let filter := layer.filter.getD .empty
  let search := layer.search.getD .empty
  { maxDepth := (overrides.maxDepth.or filter.maxDepth).getD Filter.standardLimit
    schema := filter.schema.getD .empty
    backend := (overrides.backend.or search.backend).getD .elasticsearch
    defaultLimit := search.defaultLimit.getD standardPage }

/-- The settings that overrides and merged layers amount to, if they are in range. -/
def resolve (overrides : Overrides) (layer : Layer) : Except RangeFault Settings :=
  (ofLayer overrides layer).validate

end Settings

end Sieve
