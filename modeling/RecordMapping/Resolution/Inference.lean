import RecordMapping.Field

/-!
What a field that holds records of another model stands for.

The rule sees no more than the fields of the two models.  It does not know how far either of them
has been resolved, and it changes nothing: it answers with an outcome for the field and with the
fields that have become keys.
-/

namespace RecordMapping

/-- A field that has become the key of a relationship, by its place in its model. -/
structure Mark where
  model : ModelId
  field : Nat
deriving DecidableEq, Repr

namespace Resolution

/-- What can be read of a model, finished or not. -/
structure View where
  fields : List Field
  isRecord : Bool
  /-- The first field of the primary key, as far as it is known. -/
  key? : Option Field

/-- A field found under a key. -/
structure Located where
  index : Nat
  ref : KeyRef
deriving DecidableEq, Repr

namespace View

def locate? (v : View) (key : String) : Option Located :=
  (v.fields.zipIdx.find? fun (f, _) => f.answersTo key).map fun (f, i) => ⟨i, f.keyRef⟩

/-- The column that a join table refers to. -/
def primaryColumn (v : View) : String :=
  ((v.key?.or (v.fields.find? (·.column == "id"))).map (·.column)).getD "id"

end View

/-- One of the two models of a relationship. -/
structure Side where
  id : ModelId
  name : String
  view : View

inductive Outcome where
  | column (scanner : Bool)
  /-- The target's fields take the field's place. -/
  | embedded
  | related (relationship : Relationship)
  /-- No field answers to the key that a relationship needs. -/
  | unresolved (foreignKey : String)
deriving DecidableEq, Repr

structure Finding where
  outcome : Outcome
  marks : List Mark := []
deriving DecidableEq, Repr

/-! ## Polymorphic keys -/

/-- The fields `PId` and `PType` of the target, for a setting `POLYMORPHIC:P`.  Neither counts
without the other. -/
def polymorphicPair? (target : Side) (settings : Settings) : Option (Located × Located) := do
  let name ← settings.nonEmpty? "POLYMORPHIC"
  let id ← target.view.locate? (name ++ "Id")
  let type ← target.view.locate? (name ++ "Type")
  return (id, type)

/-- A relationship before its own key is looked for. -/
def start (kind : Relationship.Kind) (target : Side) (settings : Settings) :
    Relationship × List Mark :=
  match polymorphicPair? target settings with
  | none => ({ kind }, [])
  | some (id, type) =>
    ({ kind, foreignKey := id.ref, polymorphicType? := some type.ref },
      [⟨target.id, type.index⟩, ⟨target.id, id.index⟩])

/-- The target holds the key.  Its polymorphic one will do if it has no other. -/
def heldByTarget (kind : Relationship.Kind) (target : Side) (settings : Settings)
    (foreignKey : String) : Finding :=
  let (relationship, marks) := start kind target settings
  match target.view.locate? foreignKey with
  | some found =>
    { outcome := .related (relationship.withForeignKey found.ref)
      marks := marks ++ [⟨target.id, found.index⟩] }
  | none =>
    if relationship.hasForeignKey then { outcome := .related relationship, marks }
    else { outcome := .unresolved foreignKey, marks }

/-! ## Several records of the target -/

/-- The name that the setting gives, or one from the names of both models where the setting is a
lone marker. -/
def joinTableName (setting ownerName targetName : String) : String :=
  if setting ≠ "" ∧ setting ≠ "MANY2MANY" then setting
  else Naming.columnName ownerName ++ "_" ++ Naming.plural (Naming.columnName targetName)

/-- A join table holds the keys, so that neither model needs a field for them. -/
def heldByJoinTable (owner target : Side) (settings : Settings) (foreignKey setting : String) :
    Finding :=
  let (relationship, marks) := start .manyToMany target settings
  let associationKey :=
    (settings.nonEmpty? "ASSOCIATIONFOREIGNKEY").getD (target.name ++ "Id")
  let source : KeyRef := ⟨foreignKey, Naming.columnName foreignKey⟩
  let destination : KeyRef := ⟨associationKey, Naming.columnName associationKey⟩
  let table : JoinTable := {
    name := joinTableName setting owner.name target.name
    source := ⟨owner.id, source.column, owner.view.primaryColumn⟩
    destination := ⟨target.id, destination.column, target.view.primaryColumn⟩ }
  { outcome := .related <|
      ((relationship.withForeignKey source).withAssociationKey destination).withJoinTable table
    marks }

def findMany (owner target : Side) (field : Field) : Finding :=
  let foreignKey := (field.settings.nonEmpty? "FOREIGNKEY").getD (owner.name ++ "Id")
  match field.settings.get? "MANY2MANY" with
  | some setting => heldByJoinTable owner target field.settings foreignKey setting
  | none => heldByTarget .hasMany target field.settings foreignKey

/-! ## One record of the target -/

/-- A key in the owner comes before a key in the target. -/
def findOne (owner target : Side) (field : Field) (embeds : Bool) : Finding :=
  let explicit? := field.settings.nonEmpty? "FOREIGNKEY"
  let (relationship, marks) := start .belongsTo target field.settings
  if embeds then { outcome := .embedded, marks }
  else
    match owner.view.locate? (explicit?.getD (field.name ++ "Id")) with
    | some found =>
      { outcome := .related (relationship.withForeignKey found.ref)
        marks := marks ++ [⟨owner.id, found.index⟩] }
    | none => heldByTarget .hasOne target field.settings (explicit?.getD (owner.name ++ "Id"))

/-! ## Any field -/

/-- What a field of the owner stands for, given its anonymity and what it makes of its type.  A type
that is no record makes a column. -/
def find (owner : Side) (side : ModelId → Side) (field : Field) (anonymous : Bool) : Finding :=
  match field.type.role with
  | .column scanner => { outcome := .column scanner }
  | .one id =>
    let target := side id
    if target.view.isRecord then
      findOne owner target field (field.settings.contains "EMBEDDED" || anonymous)
    else { outcome := .column false }
  | .many id =>
    let target := side id
    if target.view.isRecord then findMany owner target field else { outcome := .column false }

end Resolution
end RecordMapping
