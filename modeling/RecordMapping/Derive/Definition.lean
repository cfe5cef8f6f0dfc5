import RecordMapping.Declaration
import RecordMapping.Derive.Argument

/-!
What an item of source code declares as a model.

Only names, types, visibilities and the raw text of annotations are taken over.  The text is read
when the model is resolved.
-/

namespace RecordMapping
namespace Derive

/-- The attribute for annotations of columns in the database. -/
def sqlPath : String := "sql"

/-- The attribute for annotations of the mapping, on fields and on items. -/
def mappingPath : String := "tagmodel"

/-! ## Fields -/

structure FieldDefinition where
  name : String
  type : String
  annotation : Annotation
  exported : Bool
  anonymous : Bool
deriving DecidableEq, Repr

/-- The declaration of the field, once its type is known. -/
def FieldDefinition.declaration (d : FieldDefinition) (type : FieldType) : FieldDeclaration :=
  { name := d.name, type, annotation := d.annotation, exported := d.exported
    anonymous := d.anonymous }

/-- What the attributes of a field have said so far. -/
structure Notes where
  sql : List String := []
  mapping : List String := []
  anonymous : Bool := false
deriving DecidableEq, Repr

/-- The text of an annotation is a string literal and nothing else. -/
def annotationText (code : List Token) : Except DeriveError String :=
  match code with
  | [.text content] => .ok content
  | _ => .error .annotationLiteral

/-- The one argument that a field's attribute takes. -/
def takeFieldArgument (_ : Bool) (a : Argument) : Except DeriveError (Bool × List Token) :=
  if a.name? = some "embed" then .ok (true, a.code) else .error .fieldArgument

/-- Other attributes than the two for annotations are somebody else's. -/
def noteAttribute (n : Notes) (a : Attribute) : Except DeriveError Notes :=
  if a.path = [.name sqlPath] then
    match a.form with
    | .word => .error (.noValue sqlPath)
    | .list _ => .error .noEquals
    | .value code => return { n with sql := n.sql ++ [← annotationText code] }
  else if a.path = [.name mappingPath] then
    match a.form with
    | .word => .error .fieldForm
    | .list arguments =>
      return { n with anonymous := ← foldArguments takeFieldArgument n.anonymous arguments }
    | .value code => return { n with mapping := n.mapping ++ [← annotationText code] }
  else .ok n

/-- Several annotations of one kind are joined to one. -/
def joinTexts (texts : List String) : String := ";".intercalate texts

def FieldItem.define (f : FieldItem) : Except DeriveError FieldDefinition := do
  let n ← f.attributes.foldlM noteAttribute {}
  return {
    name := plainName (f.name?.getD "")
    type := f.type
    annotation := { sql := joinTexts n.sql, mapping := joinTexts n.mapping }
    exported := f.isExported
    anonymous := n.anonymous }

/-! ## Items -/

/-- Where the table's name comes from. -/
inductive TableSource where
  /-- From the type's name. -/
  | derived
  | literal (name : String)
  /-- From the records themselves, and for the type from a default one. -/
  | capability
deriving DecidableEq, Repr

/-- A later argument wins over an earlier one. -/
def takeItemArgument (_ : TableSource) (a : Argument) :
    Except DeriveError (TableSource × List Token) :=
  if a.name? = some "table" then
    match a.code with
    | .sign '=' :: .text name :: rest => .ok (.literal name, rest)
    | [.sign '='] => .error (if a.isLast then .atEnd .tableLiteral else .tableLiteral)
    | .sign '=' :: _ => .error .tableLiteral
    | _ => .error .noEquals
  else if a.name? = some "table_name" then .ok (.capability, a.code)
  else .error .itemArgument

def takeAttribute (t : TableSource) (a : Attribute) : Except DeriveError TableSource :=
  if a.path = [.name mappingPath] then
    match a.form with
    | .word => .error .noArguments
    | .value _ => .error .valueForArguments
    | .list arguments => foldArguments takeItemArgument t arguments
  else .ok t

structure Definition where
  name : String
  table : TableSource
  fields : List FieldDefinition
deriving DecidableEq, Repr

/-- The fields of an item that can be a model. -/
def Item.defineFields (i : Item) : Except DeriveError (List FieldDefinition) :=
  match i.shape with
  | .named => i.fields.mapM FieldItem.define
  | .tuple => .error .unnamedFields
  | .unit => .ok []
  | .enumeration => .error .enumeration
  | .union => .error .union

/-- The item's fields are looked at before its own attributes. -/
def Item.define (i : Item) : Except DeriveError Definition := do
  if i.isGeneric then throw .generic
  let fields ← i.defineFields
  let table ← i.attributes.foldlM takeAttribute .derived
  return { name := i.name, table, fields }

end Derive
end RecordMapping
