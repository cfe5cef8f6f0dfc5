/-!
The configuration of a registry.
-/

namespace RecordMapping

structure Config where
  /-- Derived table names stay singular. -/
  singularTables : Bool := false
  /-- A relationship whose key cannot be found is an error for those who ask for one. -/
  strict : Bool := false
  /-- Applied to a table name whenever it is shown or used.  What is stored is the name before. -/
  tableNameHook? : Option (String → String) := none

namespace Config

def tableName (c : Config) (raw : String) : String :=
  match c.tableNameHook? with
  | some hook => hook raw
  | none => raw

end Config
end RecordMapping
