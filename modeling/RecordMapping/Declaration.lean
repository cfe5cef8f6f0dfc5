import RecordMapping.Annotation
import RecordMapping.FieldType

/-!
Declarations of models and their fields.

Field types refer to models by their place in the schema, so that models may refer to each other
and to themselves.
-/

namespace RecordMapping

structure FieldDeclaration where
  name : String
  type : FieldType
  annotation : Annotation := {}
  /-- Only exported fields take part in the mapping. -/
  exported : Bool := true
  /-- The fields of the field's own model stand in its place. -/
  anonymous : Bool := false
deriving DecidableEq, Repr, Inhabited

namespace FieldDeclaration

/-- The model whose fields the mapping of this field has to know. -/
def target? (d : FieldDeclaration) : Option ModelId :=
  if d.annotation.isExcluded then none else d.type.associated?

end FieldDeclaration

structure Declaration where
  name : String
  /-- Other types than records have no fields and no table, whatever else is declared for them. -/
  isRecord : Bool := true
  /-- The name that the type chooses for its table. -/
  tableName? : Option String := none
  fields : List FieldDeclaration := []
deriving DecidableEq, Repr, Inhabited

/-- All declared models. -/
structure Schema where
  declarations : List Declaration
deriving DecidableEq, Repr, Inhabited

namespace Schema

/-- The declaration of a model.  Outside the schema there are only nameless types without
fields. -/
def declaration (s : Schema) (id : ModelId) : Declaration :=
  s.declarations.getD id { name := "", isRecord := false }

def name (s : Schema) (id : ModelId) : String := (s.declaration id).name

def isRecord (s : Schema) (id : ModelId) : Bool := (s.declaration id).isRecord

def exported (s : Schema) (id : ModelId) : List FieldDeclaration :=
  (s.declaration id).fields.filter (·.exported)

theorem lt_of_isRecord {s : Schema} {id : ModelId} (h : s.isRecord id = true) :
    id < s.declarations.length := by
  by_cases hlt : id < s.declarations.length
  · exact hlt
  · simp [isRecord, declaration, List.getElem?_eq_none (Nat.le_of_not_lt hlt)] at h

end Schema
end RecordMapping
