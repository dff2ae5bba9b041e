/-
The operands of filters. A value has one of eight kinds; a list may hold values
of different kinds, lists included. A formula is the text of a spreadsheet
formula, with its equals sign.

A target names the kind that a value is to be brought to. List and sequence are
two names for the same kind.
-/

import Sieve.Calendar.Text
import Sieve.Double.Text

namespace Sieve

inductive Value where
  | bool (flag : Bool)
  | int (number : Int64)
  | float (number : Double)
  | str (text : String)
  | list (items : List Value)
  | date (date : Calendar.Date)
  | datetime (instant : Calendar.Instant)
  | formula (text : String)

namespace Value

inductive Kind where
  | bool
  | int
  | float
  | str
  | list
  | date
  | datetime
  | formula
deriving DecidableEq, Repr

def Kind.name : Kind → String
  | .bool => "bool"
  | .int => "int"
  | .float => "float"
  | .str => "str"
  | .list => "list"
  | .date => "date"
  | .datetime => "datetime"
  | .formula => "formula"

def kind : Value → Kind
  | .bool _ => .bool
  | .int _ => .int
  | .float _ => .float
  | .str _ => .str
  | .list _ => .list
  | .date _ => .date
  | .datetime _ => .datetime
  | .formula _ => .formula

theorem exists_bool_of_kind {value : Value} (bool : value.kind = .bool) :
    ∃ flag, value = .bool flag := by
  cases value with
  | bool flag => exact ⟨flag, rfl⟩
  | _ => cases bool

theorem exists_str_of_kind {value : Value} (str : value.kind = .str) :
    ∃ text, value = .str text := by
  cases value with
  | str text => exact ⟨text, rfl⟩
  | _ => cases str

theorem exists_list_of_kind {value : Value} (list : value.kind = .list) :
    ∃ items, value = .list items := by
  cases value with
  | list items => exact ⟨items, rfl⟩
  | _ => cases list

inductive Target where
  | int
  | str
  | bool
  | float
  | list
  | sequence
  | date
  | datetime
  | formula
deriving DecidableEq, Repr

def Target.name : Target → String
  | .int => "int"
  | .str => "str"
  | .bool => "bool"
  | .float => "float"
  | .list => "list"
  | .sequence => "sequence"
  | .date => "date"
  | .datetime => "datetime"
  | .formula => "formula"

def Target.all : List Target :=
  [.int, .str, .bool, .float, .list, .sequence, .date, .datetime, .formula]

/-- The targets by their names. -/
def Target.named : List (String × Target) :=
  Target.all.map fun target => (target.name, target)

/-- The kind that a target names. -/
def Target.kind : Target → Kind
  | .int => .int
  | .str => .str
  | .bool => .bool
  | .float => .float
  | .list => .list
  | .sequence => .list
  | .date => .date
  | .datetime => .datetime
  | .formula => .formula

def Target.isSequence (target : Target) : Bool :=
  decide (target.kind = .list)

end Value

end Sieve
