import RecordMapping.FieldType

/-!
Relationships between models.
-/

namespace RecordMapping

/-- A field named together with its column. -/
structure KeyRef where
  field : String
  column : String
deriving DecidableEq, Repr, Inhabited

/-! ## Join tables -/

/-- One side of a join table: its model, the join table's column for it, and the model's column that
this one refers to. -/
structure JoinTable.End where
  model : ModelId
  column : String
  primaryColumn : String
deriving DecidableEq, Repr

/-- A table of two columns, each of which refers to one of two models. -/
structure JoinTable where
  name : String
  source : JoinTable.End
  destination : JoinTable.End
deriving DecidableEq, Repr

namespace JoinTable

/-- The table's two columns, source first. -/
def columns (t : JoinTable) : List String := [t.source.column, t.destination.column]

/-- The clause that joins the table to the table of its destination. -/
def joinClause (t : JoinTable) (destinationTable : String) : String :=
  "INNER JOIN " ++ t.name ++ " ON " ++ t.name ++ "." ++ t.destination.column ++ " = " ++
    destinationTable ++ "." ++ t.destination.primaryColumn

/-- The condition that leaves the rows of one source. -/
def sourceCondition (t : JoinTable) : String := t.name ++ "." ++ t.source.column ++ " = ?"

end JoinTable

/-! ## Relationships -/

namespace Relationship

inductive Kind where
  /-- The other model holds the key, once for each owner. -/
  | hasOne
  /-- The other model holds the key. -/
  | hasMany
  /-- The owner of the field holds the key. -/
  | belongsTo
  /-- A join table holds the keys of both. -/
  | manyToMany
deriving DecidableEq, Repr, Inhabited

def Kind.name : Kind → String
  | .hasOne => "has_one"
  | .hasMany => "has_many"
  | .belongsTo => "belongs_to"
  | .manyToMany => "many_to_many"

end Relationship

structure Relationship where
  kind : Relationship.Kind
  /-- The field that refers to the other side, on the side that holds the key.  Its name is empty
  until one is found. -/
  foreignKey : KeyRef := ⟨"", ""⟩
  /-- The join table's reference to the associated model. -/
  associationKey? : Option KeyRef := none
  /-- The field that tells the models apart that may own the key. -/
  polymorphicType? : Option KeyRef := none
  joinTable? : Option JoinTable := none
deriving DecidableEq, Repr

namespace Relationship

def withForeignKey (r : Relationship) (key : KeyRef) : Relationship := { r with foreignKey := key }

def withAssociationKey (r : Relationship) (key : KeyRef) : Relationship :=
  { r with associationKey? := some key }

def withPolymorphicType (r : Relationship) (key : KeyRef) : Relationship :=
  { r with polymorphicType? := some key }

def withJoinTable (r : Relationship) (table : JoinTable) : Relationship :=
  { r with joinTable? := some table }

def isPolymorphic (r : Relationship) : Bool := r.polymorphicType?.isSome

def hasForeignKey (r : Relationship) : Bool := r.foreignKey.field ≠ ""

end Relationship
end RecordMapping
