/-!
The declared types of fields.
-/

namespace RecordMapping

/-- The place of a model in its schema.  It identifies the model: two models may have one name. -/
abbrev ModelId := Nat

/-- The shape of a declared type.  The text of a plain type is its full name. -/
inductive FieldType where
  /-- A plain column value. -/
  | scalar (name : String)
  /-- A point in time, stored as it is. -/
  | time (name : String)
  /-- A type that decodes and encodes its column itself. -/
  | scanner (name : String)
  | model (id : ModelId)
  /-- A value that may be absent. -/
  | optional (of : FieldType)
  | sequence (of : FieldType)
deriving DecidableEq, Repr, Inhabited

namespace FieldType

/-- The type without one level of optionality. -/
def present : FieldType → FieldType
  | .optional t => t
  | t => t

def isTime : FieldType → Bool
  | .time _ => true
  | _ => false

def isScanner : FieldType → Bool
  | .scanner _ => true
  | _ => false

/-- What a type of this shape makes of its field. -/
inductive Role where
  | column (scanner : Bool)
  /-- The field holds one value of a model, or is embedded. -/
  | one (target : ModelId)
  /-- The field holds several values of a model. -/
  | many (target : ModelId)
deriving DecidableEq, Repr

/-- One level of optionality is looked through, on the field and on the elements of a sequence.  A
deeper one makes a column. -/
def role (t : FieldType) : Role :=
  match t.present with
  | .scanner _ => .column true
  | .model id => .one id
  | .sequence of =>
    match of.present with
    | .model id => .many id
    | _ => .column false
  | _ => .column false

def Role.target? : Role → Option ModelId
  | .column _ => none
  | .one id => some id
  | .many id => some id

/-- The model that a field of this type holds values of. -/
def associated? (t : FieldType) : Option ModelId := t.role.target?

/-- The name of the type inside all optionality and sequences. -/
def baseName (modelName : ModelId → String) : FieldType → String
  | .scalar name | .time name | .scanner name => name
  | .model id => modelName id
  | .optional t | .sequence t => t.baseName modelName

end FieldType
end RecordMapping
