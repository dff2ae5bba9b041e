/-
Schemas. A schema says for some fields, by their dotted names, to which kind the
operands of comparisons are brought. Of two schemas the later one decides where
both name a field.
-/

import Sieve.Table
import Sieve.Value.Basic

namespace Sieve.Filter

structure Schema where
  entries : List (String × Value.Target)
  distinct : (Table.keys entries).Nodup

namespace Schema

def empty : Schema :=
  ⟨[], List.nodup_nil⟩

def insert (field : String) (target : Value.Target) (schema : Schema) : Schema :=
  ⟨Table.insert field target schema.entries, Table.nodup_keys_insert schema.distinct⟩

def get? (schema : Schema) (field : String) : Option Value.Target :=
  schema.entries.lookup field

/-- The schema with the entries of a later one written over it. -/
def merge (schema later : Schema) : Schema :=
  ⟨Table.merge schema.entries later.entries, Table.nodup_keys_merge schema.distinct⟩

def size (schema : Schema) : Nat :=
  schema.entries.length

def isEmpty (schema : Schema) : Bool :=
  schema.entries.isEmpty

end Schema

end Sieve.Filter
