/-
Layers of settings. A layer sets some of the settings and leaves the others open;
what a later layer sets wins over an earlier one, field by field in a schema.
-/

import Sieve.Backend
import Sieve.Filter.Schema

namespace Sieve.Settings

open Sieve.Filter (Schema)

structure FilterSection where
  maxDepth : Option Nat
  schema : Option Schema

structure SearchSection where
  backend : Option Backend
  defaultLimit : Option Nat

structure Layer where
  filter : Option FilterSection
  search : Option SearchSection

def FilterSection.empty : FilterSection :=
  ⟨none, none⟩

def SearchSection.empty : SearchSection :=
  ⟨none, none⟩

def Layer.empty : Layer :=
  ⟨none, none⟩

/-- The later of two things that may both be missing. -/
def later? {α : Type} (first second : Option α) : Option α :=
  match second with
  | some value => some value
  | none => first

/-- Two things that may be missing, merged where both are there. -/
def merge? {α : Type} (merge : α → α → α) (first second : Option α) : Option α :=
  match first, second with
  | some first, some second => some (merge first second)
  | some first, none => some first
  | none, second => second

def FilterSection.merge (first second : FilterSection) : FilterSection :=
  ⟨later? first.maxDepth second.maxDepth, merge? Schema.merge first.schema second.schema⟩

def SearchSection.merge (first second : SearchSection) : SearchSection :=
  ⟨later? first.backend second.backend, later? first.defaultLimit second.defaultLimit⟩

/-- The settings of a layer with those of a later layer over them. -/
def Layer.merge (first second : Layer) : Layer :=
  ⟨merge? FilterSection.merge first.filter second.filter,
   merge? SearchSection.merge first.search second.search⟩

/-- The schema entry of a layer for a field. -/
def Layer.target? (layer : Layer) (field : String) : Option Value.Target :=
  (layer.filter.bind FilterSection.schema).bind fun schema => schema.get? field

end Sieve.Settings
