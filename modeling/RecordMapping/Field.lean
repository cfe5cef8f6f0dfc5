import RecordMapping.Declaration
import RecordMapping.Naming
import RecordMapping.Relationship

/-!
Fields of a mapped model.
-/

namespace RecordMapping

/-- A field of a mapped model, declared by the model itself or taken over from an embedded one. -/
structure Field where
  name : String
  /-- The embedding fields on the way to this field, outermost first, and the field itself. -/
  path : List String
  /-- Empty for an ignored field. -/
  column : String
  type : FieldType
  annotation : Annotation
  /-- Empty for an ignored field. -/
  settings : Settings
  isPrimaryKey : Bool
  isIgnored : Bool
  /-- The field is stored as a column of its own. -/
  isStored : Bool
  /-- The field's type decodes its column itself. -/
  isScanner : Bool
  hasDefault : Bool
  isAutoIncrement : Bool
  /-- Some relationship refers to this field.  Once set, the mark stays. -/
  isForeignKey : Bool
  relationship? : Option Relationship
deriving DecidableEq, Repr

namespace Field

/-- A declared field before its type is looked at.  An ignored field has neither settings nor a
column. -/
def ofDeclaration (d : FieldDeclaration) : Field :=
  let excluded := d.annotation.isExcluded
  let settings := if excluded then {} else d.annotation.settings
  { name := d.name
    path := [d.name]
    column := if excluded then "" else (settings.get? "COLUMN").getD (Naming.columnName d.name)
    type := d.type
    annotation := d.annotation
    settings := settings
    isPrimaryKey := settings.contains "PRIMARY_KEY"
    isIgnored := excluded
    isStored := false
    isScanner := false
    hasDefault := settings.contains "DEFAULT"
    isAutoIncrement := settings.contains "AUTO_INCREMENT"
    isForeignKey := false
    relationship? := none }

/-- A key may name a field as declared, or its column in any spelling that gives the column's
name. -/
def answersTo (f : Field) (key : String) : Bool :=
  f.name == key || f.column == Naming.columnName key

/-- The field is written as a column. -/
def isColumn (f : Field) : Bool := !f.isIgnored && f.isStored

def hasRelationship (f : Field) : Bool := f.relationship?.isSome

/-- The field as a key of some relationship. -/
def marked (f : Field) : Field := { f with isForeignKey := true }

/-- The field as reached through the embedding field `outer`. -/
def within (outer : String) (f : Field) : Field := { f with path := outer :: f.path }

def keyRef (f : Field) : KeyRef := ⟨f.name, f.column⟩

@[simp]
theorem marked_marked (f : Field) : f.marked.marked = f.marked := rfl

@[simp]
theorem marked_of_isForeignKey {f : Field} (h : f.isForeignKey = true) : f.marked = f := by
  cases f
  simp_all [marked]

theorem answersTo_name (f : Field) : f.answersTo f.name = true := by simp [answersTo]

/-! ## Settings of the column -/

/-- The column type, where the annotation gives it. -/
def sqlType? (f : Field) : Option String := f.settings.nonEmpty? "TYPE"

/-- The value of a decimal numeral below `2 ^ 64`.  A plus sign may stand before its digits. -/
def readSize? (cs : List Char) : Option Nat :=
  let digits := match cs with
    | '+' :: rest => rest
    | _ => cs
  if digits.isEmpty || !digits.all (·.isDigit) then none
  else
    let n := digits.foldl (fun n c => 10 * n + (c.toNat - '0'.toNat)) 0
    if n < Nat.pow 2 64 then some n else none

/-- The size of a column whose annotation gives none that can be read. -/
def defaultSize : Nat := 255

def size (f : Field) : Nat :=
  ((f.settings.get? "SIZE").bind fun size => readSize? (Text.trimmed size.toList)).getD defaultSize

def isNotNull (f : Field) : Bool := f.settings.contains "NOT NULL"

def isUnique (f : Field) : Bool := f.settings.contains "UNIQUE"

/-- The default value of the column.  A lone `default` only says that the database has one. -/
def defaultValue? (f : Field) : Option String :=
  (f.settings.nonEmpty? "DEFAULT").filter (· ≠ "DEFAULT")

/-- The unique indexes that the field is part of. -/
def uniqueIndexGroups (f : Field) : List String :=
  match f.settings.get? "UNIQUE_INDEX" with
  | none => []
  | some groups => ((groups.toList.splitOn ':').filter (!·.isEmpty)).map String.ofList

/-- The column in the database is left as it is. -/
def ignoresMigration (f : Field) : Bool := f.settings.contains "IGNORE_MIGRATE"

end Field
end RecordMapping
