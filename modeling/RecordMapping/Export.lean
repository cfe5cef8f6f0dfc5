import RecordMapping.Json.Text
import RecordMapping.Model

/-!
Mapped models as JSON.

A model that is referred to is written by its declared name, and what is absent is written as null.
-/

namespace RecordMapping

def ModelId.toJson (s : Schema) (id : ModelId) : Json := .string (s.name id)

def FieldType.toJson (s : Schema) : FieldType → Json
  | .scalar name => tagged "scalar" (.string name)
  | .time name => tagged "time" (.string name)
  | .scanner name => tagged "scanner" (.string name)
  | .model id => tagged "model" (ModelId.toJson s id)
  | .optional t => tagged "indirect" (t.toJson s)
  | .sequence t => tagged "sequence" (t.toJson s)
where
  tagged (kind : String) (of : Json) : Json := .object [("kind", .string kind), ("of", of)]

def Annotation.toJson (a : Annotation) : Json :=
  .object [("sql", .string a.sql), ("tagmodel", .string a.mapping)]

def Settings.toJson (s : Settings) : Json := .object (s.entries.map fun (k, v) => (k, .string v))

def JoinTable.End.toJson (s : Schema) (e : JoinTable.End) : Json :=
  .object [
    ("model_type", ModelId.toJson s e.model),
    ("foreign_key", .object [
      ("column_name", .string e.column),
      ("association_column_name", .string e.primaryColumn)])]

def JoinTable.toJson (s : Schema) (t : JoinTable) : Json :=
  .object [
    ("table_name", .string t.name),
    ("source", t.source.toJson s),
    ("destination", t.destination.toJson s)]

def Relationship.toJson (s : Schema) (r : Relationship) : Json :=
  .object [
    ("kind", .string r.kind.name),
    ("foreign_field_name", .string r.foreignKey.field),
    ("foreign_column_name", .string r.foreignKey.column),
    ("association_foreign_field_name", name? (r.associationKey?.map (·.field))),
    ("association_foreign_column_name", name? (r.associationKey?.map (·.column))),
    ("polymorphic_type_field_name", name? (r.polymorphicType?.map (·.field))),
    ("polymorphic_type_column_name", name? (r.polymorphicType?.map (·.column))),
    ("join_table", .ofOption (·.toJson s) r.joinTable?)]
where
  name? : Option String → Json := .ofOption .string

def Field.toJson (s : Schema) (f : Field) : Json :=
  .object [
    ("name", .string f.name),
    ("name_chain", .strings f.path),
    ("column_name", .string f.column),
    ("field_type", f.type.toJson s),
    ("tag", f.annotation.toJson),
    ("settings", f.settings.toJson),
    ("is_primary_key", .bool f.isPrimaryKey),
    ("is_ignored", .bool f.isIgnored),
    ("is_normal", .bool f.isStored),
    ("is_scanner", .bool f.isScanner),
    ("has_default_value", .bool f.hasDefault),
    ("is_auto_increment", .bool f.isAutoIncrement),
    ("is_foreign_key", .bool f.isForeignKey),
    ("relationship", .ofOption (·.toJson s) f.relationship?)]

def Unresolved.toJson (u : Unresolved) : Json :=
  .object [("field", .string u.field), ("foreign_key", .string u.foreignKey)]

def Model.members (s : Schema) (m : Model) : List (String × Json) := [
  ("model_type", ModelId.toJson s m.id),
  ("default_table_name", .string m.tableName),
  ("fields", .array (m.fields.map (·.toJson s))),
  ("primary_field_indices", .array (m.primary.map .ofNat)),
  ("unresolved", .array (m.unresolved.map (·.toJson)))]

def Model.toJson (s : Schema) (m : Model) : Json := .object (m.members s)

/-- The model as a document for readers. -/
def Model.document (s : Schema) (m : Model) : String := (m.toJson s).pretty

end RecordMapping
