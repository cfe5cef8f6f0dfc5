import RecordMapping.Registry
import RecordMapping.Text.Quoted

/-!
The structure of values as text, for whoever looks for a fault.
-/

namespace RecordMapping

/-- A value as a tree of names and texts. -/
inductive Inspection where
  | word (s : String)
  | text (s : String)
  | list (items : List Inspection)
  /-- A text under each text. -/
  | table (entries : List (String × String))
  | tuple (name : String) (item : Inspection)
  | record (name : String) (members : List (String × Inspection))

namespace Inspection

/-- The items with a comma and a blank between two of them. -/
def commaSeparated (items : List String) : String := ", ".intercalate items

mutual

def render : Inspection → String
  | .word s => s
  | .text s => Text.quote s
  | .list items => "[" ++ commaSeparated (renderItems items) ++ "]"
  | .table entries =>
    "\x7b" ++
      commaSeparated (entries.map fun (k, v) => Text.quote k ++ ": " ++ Text.quote v) ++ "\x7d"
  | .tuple name item => name ++ "(" ++ item.render ++ ")"
  | .record name members =>
    name ++ " \x7b " ++ commaSeparated (renderMembers members) ++ " \x7d"

def renderItems : List Inspection → List String
  | [] => []
  | i :: rest => i.render :: renderItems rest

def renderMembers : List (String × Inspection) → List String
  | [] => []
  | (name, i) :: rest => (name ++ ": " ++ i.render) :: renderMembers rest

end

def bool (b : Bool) : Inspection := .word (if b then "true" else "false")

def nat (n : Nat) : Inspection := .word (toString n)

def option {α : Type} (f : α → Inspection) : Option α → Inspection
  | none => .word "None"
  | some a => .tuple "Some" (f a)

def optionalText : Option String → Inspection := option .text

end Inspection

open Inspection

/-- A model in a tree is shown by its declared name. -/
def FieldType.inspect (s : Schema) : FieldType → Inspection
  | .scalar name => .tuple "Scalar" (.text name)
  | .time name => .tuple "Time" (.text name)
  | .scanner name => .tuple "Scanner" (.text name)
  | .model id => .tuple "Model" (.tuple "ModelRef" (.text (s.name id)))
  | .optional t => .tuple "Indirect" (t.inspect s)
  | .sequence t => .tuple "Sequence" (t.inspect s)

def ModelId.inspect (s : Schema) (id : ModelId) : Inspection := .tuple "ModelType" (.text (s.name id))

def Annotation.inspect (a : Annotation) : Inspection :=
  .record "StructTag" [("sql", .text a.sql), ("tagmodel", .text a.mapping)]

def Settings.inspect (s : Settings) : Inspection :=
  .record "TagSettings" [("settings", .table s.entries)]

def JoinTable.End.inspect (s : Schema) (e : JoinTable.End) : Inspection :=
  .record "JoinTableSource" [
    ("model_type", ModelId.inspect s e.model),
    ("foreign_key", .record "JoinTableForeignKey" [
      ("column_name", .text e.column),
      ("association_column_name", .text e.primaryColumn)])]

def JoinTable.inspect (s : Schema) (t : JoinTable) : Inspection :=
  .record "JoinTableHandler" [
    ("table_name", .text t.name),
    ("source", t.source.inspect s),
    ("destination", t.destination.inspect s)]

def Relationship.Kind.inspect : Relationship.Kind → Inspection
  | .hasOne => .word "HasOne"
  | .hasMany => .word "HasMany"
  | .belongsTo => .word "BelongsTo"
  | .manyToMany => .word "ManyToMany"

def Relationship.inspect (s : Schema) (r : Relationship) : Inspection :=
  .record "RelationshipMetadata" [
    ("kind", r.kind.inspect),
    ("foreign_field_name", .text r.foreignKey.field),
    ("foreign_column_name", .text r.foreignKey.column),
    ("association_foreign_field_name", optionalText (r.associationKey?.map (·.field))),
    ("association_foreign_column_name", optionalText (r.associationKey?.map (·.column))),
    ("polymorphic_type_field_name", optionalText (r.polymorphicType?.map (·.field))),
    ("polymorphic_type_column_name", optionalText (r.polymorphicType?.map (·.column))),
    ("join_table", Inspection.option (·.inspect s) r.joinTable?)]

def Field.inspect (s : Schema) (f : Field) : Inspection :=
  .record "FieldMetadata" [
    ("name", .text f.name),
    ("name_chain", .list (f.path.map .text)),
    ("column_name", .text f.column),
    ("field_type", f.type.inspect s),
    ("tag", f.annotation.inspect),
    ("settings", f.settings.inspect),
    ("is_primary_key", .bool f.isPrimaryKey),
    ("is_ignored", .bool f.isIgnored),
    ("is_normal", .bool f.isStored),
    ("is_scanner", .bool f.isScanner),
    ("has_default_value", .bool f.hasDefault),
    ("is_auto_increment", .bool f.isAutoIncrement),
    ("foreign_key", .bool f.isForeignKey),
    ("relationship", Inspection.option (·.inspect s) f.relationship?)]

/-- A hook is shown only by its presence. -/
def Config.inspect (c : Config) : Inspection :=
  .record "Config" [
    ("singular_table", .bool c.singularTables),
    ("strict", .bool c.strict),
    ("table_name_handler", Inspection.option (fun _ => .text "<fn>") c.tableNameHook?)]

def Registry.inspect (r : Registry) : Inspection :=
  .record "ModelCache" [
    ("config", r.config.inspect),
    ("models", .nat r.size),
    ("stats", .record "CacheStats" [
      ("hits", .nat r.hits), ("misses", .nat r.misses), ("resolved", .nat r.resolved)])]

end RecordMapping
