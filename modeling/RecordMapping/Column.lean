import RecordMapping.Field

/-!
Definitions of columns in SQL.
-/

namespace RecordMapping

/-- What a database calls the type of a field's column, given its size and whether the database
counts it up. -/
structure Dialect where
  typeOf : Field → Nat → Bool → String

namespace Dialect

/-- Columns have the name of the field's type, with the size in parentheses. -/
def plain (modelName : ModelId → String) : Dialect where
  typeOf f size auto :=
    f.type.baseName modelName ++ "(" ++ toString size ++ ")" ++ (if auto then " AUTO" else "")

end Dialect

namespace Field

/-- The type of the field's column.  The annotation's wins over the dialect's. -/
def columnType (f : Field) (dialect : Dialect) : String :=
  f.sqlType?.getD (dialect.typeOf f f.size (f.isAutoIncrement || f.isPrimaryKey))

/-- The type and then the constraints, in a fixed order. -/
def columnDefinition (f : Field) (dialect : Dialect) : String :=
  " ".intercalate <|
    [f.columnType dialect] ++
    (if f.isNotNull then ["NOT NULL"] else []) ++
    (if f.isUnique then ["UNIQUE"] else []) ++
    (f.defaultValue?.map ("DEFAULT " ++ ·)).toList

/-- Whether two definitions agree word by word up to the end of the shorter one. -/
def agree (a b : List Char) : Bool :=
  ((Text.words a).zip (Text.words b)).all fun (x, y) => Text.eqIgnoringCase x y

/-- Whether the field can use a column that is defined as `existing`. -/
def fitsColumn (f : Field) (existing : String) (dialect : Dialect) : Bool :=
  f.ignoresMigration || agree (f.columnDefinition dialect).toList existing.toList

end Field
end RecordMapping
