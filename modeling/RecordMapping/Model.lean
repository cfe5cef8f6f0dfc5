import RecordMapping.Config
import RecordMapping.Error
import RecordMapping.Field

/-!
Mapped models.
-/

namespace RecordMapping

/-- A field that holds records of another model, and the key that was looked for in vain. -/
structure Unresolved where
  field : String
  foreignKey : String
deriving DecidableEq, Repr

/-- A model as it is mapped to a table. -/
structure Model where
  id : ModelId
  /-- The table's name before the configured hook. -/
  tableName : String
  /-- In order of declaration, the fields of an embedded model in place of the embedding field. -/
  fields : List Field
  /-- The places of the primary key's fields, in the order in which they were found. -/
  primary : List Nat
  unresolved : List Unresolved
  isRecord : Bool
deriving DecidableEq, Repr

namespace Model

/-- A type that is no record has no table and no fields. -/
def blank (id : ModelId) : Model :=
  { id, tableName := "", fields := [], primary := [], unresolved := [], isRecord := false }

/-- The model after field `i` became the key of a relationship. -/
def mark (m : Model) (i : Nat) : Model := { m with fields := m.fields.modify i Field.marked }

@[simp]
theorem length_mark_fields (m : Model) (i : Nat) :
    (m.mark i).fields.length = m.fields.length := by simp [mark]

/-! ## Look-ups -/

def primaryFields (m : Model) : List Field := m.primary.filterMap (m.fields[·]?)

/-- The place of the primary key's field, unless the key has several or none. -/
def primaryField? (m : Model) : Option Nat :=
  match m.primary with
  | [i] => if i < m.fields.length then some i else none
  | _ => none

/-- The first field with this declared name. -/
def fieldNamed? (m : Model) (name : String) : Option Nat := m.fields.findIdx? (·.name == name)

/-- The first field that has this column. -/
def fieldOfColumn? (m : Model) (column : String) : Option Nat :=
  m.fields.findIdx? fun f => !f.isIgnored && f.column == column

/-- The first field that the key names, as a relationship looks for its key. -/
def fieldAnswering? (m : Model) (key : String) : Option Nat :=
  m.fields.findIdx? (·.answersTo key)

def columns (m : Model) : List Field := m.fields.filter (·.isColumn)

def relationships (m : Model) : List (Field × Relationship) :=
  m.fields.filterMap fun f => f.relationship?.map (f, ·)

/-! ## Strictness -/

/-- What a strict caller objects to, `name` being the model's declared name. -/
def objection? (m : Model) (name : String) : Option MappingError :=
  if m.isRecord then
    m.unresolved.head?.map fun u => .unresolvedRelationship name u.field u.foreignKey
  else some (.notARecord name)

end Model
end RecordMapping
