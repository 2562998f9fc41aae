import ParamSql.Error
import ParamSql.KeyedList
import ParamSql.Value.Basic

/-!
# Mappings of entities

The table of an entity and the column behind each of its properties, in the
order in which the properties were mapped. A property mapped again keeps its
place.
-/

namespace ParamSql

structure Column where
  name : String
  storageType : Option StorageType := none
deriving DecidableEq, Repr

/-- Finds the column of an entity's property. -/
abbrev Resolver := (entity property : String) → Except Error Column

structure EntityMapping where
  entity : String
  table : String
  columns : List (String × Column) := []
deriving DecidableEq, Repr

namespace EntityMapping

def mapColumn (m : EntityMapping) (property : String) (column : Column) : EntityMapping :=
  { m with columns := replaceOrAppend Prod.fst (property, column) m.columns }

def column? (m : EntityMapping) (property : String) : Option Column :=
  m.columns.lookup property

def resolve (m : EntityMapping) : Resolver := fun entity property =>
  if entity ≠ m.entity then .error (.unknownEntity entity)
  else match m.column? property with
    | some column => .ok column
    | none => .error (.unmappedProperty entity property)

end EntityMapping

/-- The mappings of several entities, one for each. -/
structure EntityRegistry where
  mappings : List (String × EntityMapping) := []
deriving DecidableEq

namespace EntityRegistry

/-- Add a mapping in place of any other of the same entity. -/
def register (r : EntityRegistry) (m : EntityMapping) : EntityRegistry :=
  { mappings := replaceOrAppend Prod.fst (m.entity, m) r.mappings }

def mapping (r : EntityRegistry) (entity : String) : Except Error EntityMapping :=
  match r.mappings.lookup entity with
  | some m => .ok m
  | none => .error (.unknownEntity entity)

def resolve (r : EntityRegistry) : Resolver := fun entity property =>
  (r.mapping entity).bind fun m => m.resolve entity property

end EntityRegistry

end ParamSql
