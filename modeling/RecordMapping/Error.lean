/-!
Errors that reach a caller.  Resolution itself never fails.
-/

namespace RecordMapping

inductive MappingError where
  /-- A field holds records of another model, but no key ties the two models together. -/
  | unresolvedRelationship (model field foreignKey : String)
  | notARecord (model : String)
  /-- A stored value is not one that the field's type can take. -/
  | scan (expected found : String)
deriving DecidableEq, Repr

namespace MappingError

def message : MappingError → String
  | .unresolvedRelationship model field foreignKey =>
    "unresolved relationship " ++ model ++ "." ++ field ++ ": no field matches foreign key `" ++
      foreignKey ++ "` on either side"
  | .notARecord model => "`" ++ model ++ "` is not a struct"
  | .scan expected found => "cannot scan " ++ found ++ " into " ++ expected

end MappingError
end RecordMapping
