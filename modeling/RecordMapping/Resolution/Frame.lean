import RecordMapping.Model
import RecordMapping.Resolution.Inference

/-!
A model whose fields are being resolved.

Every exported field has a slot from the start, so that a model can be looked at by others, and by
itself, before its resolution ends.  Embedding fills a slot with the fields of another model.  Only
when all slots are settled do these fields take their places, and the places of the primary key's
fields are known.
-/

namespace RecordMapping
namespace Resolution

structure Slot where
  field : Field
  anonymous : Bool
  /-- The fields that take this field's place, once it turned out to be an embedding. -/
  expansion? : Option (List Field) := none
deriving DecidableEq, Repr

namespace Slot

def ofDeclaration (d : FieldDeclaration) : Slot :=
  { field := Field.ofDeclaration d, anonymous := d.anonymous }

/-- What the slot contributes to the finished model. -/
def fields (s : Slot) : List Field := s.expansion?.getD [s.field]

def mapField (s : Slot) (g : Field → Field) : Slot := { s with field := g s.field }

end Slot

/-- A field of the primary key, by its slot, or by its slot and its place in the expansion. -/
inductive PrimaryRef where
  | direct (slot : Nat)
  | embedded (slot offset : Nat)
deriving DecidableEq, Repr

structure Frame where
  id : ModelId
  slots : List Slot
  primary : List PrimaryRef
  unresolved : List Unresolved := []
deriving DecidableEq, Repr

namespace Frame

/-- The declared fields, with those that are tagged as primary key. -/
def ofDeclarations (id : ModelId) (declarations : List FieldDeclaration) : Frame :=
  let slots := declarations.map Slot.ofDeclaration
  { id, slots
    primary := slots.zipIdx.filterMap fun (s, i) =>
      if s.field.isPrimaryKey then some (.direct i) else none }

def view (f : Frame) : View :=
  { fields := f.slots.map (·.field)
    isRecord := true
    key? := (f.slots.map (·.field)).find? (·.isPrimaryKey) }

/-! ## Settling a slot -/

def modifyField (f : Frame) (i : Nat) (g : Field → Field) : Frame :=
  { f with slots := f.slots.modify i (·.mapField g) }

def mark (f : Frame) (i : Nat) : Frame := f.modifyField i Field.marked

/-- The field becomes a column.  A column named `id` is the primary key of a model that has no other
by then. -/
def store (f : Frame) (i : Nat) (scanner : Bool) : Frame :=
  let stored := f.modifyField i fun x => { x with isStored := true, isScanner := scanner }
  if f.primary.isEmpty && f.slots[i]?.any (·.field.column == "id") then
    { stored.modifyField i fun x => { x with isPrimaryKey := true } with primary := [.direct i] }
  else stored

def relate (f : Frame) (i : Nat) (r : Relationship) : Frame :=
  f.modifyField i fun x => { x with relationship? := some r }

def leaveUnresolved (f : Frame) (i : Nat) (foreignKey : String) : Frame :=
  match f.slots[i]? with
  | none => f
  | some s => { f with unresolved := f.unresolved ++ [⟨s.field.name, foreignKey⟩] }

/-- The given fields take the place of the field, which becomes the first step on the path to
them. -/
def embed (f : Frame) (i : Nat) (fields : List Field) : Frame :=
  { f with
    slots := f.slots.modify i fun s =>
      { s with expansion? := some (fields.map (·.within s.field.name)) }
    primary := f.primary ++ fields.zipIdx.filterMap fun (x, offset) =>
      if x.isPrimaryKey then some (.embedded i offset) else none }

/-! ## The finished model -/

def fields (f : Frame) : List Field := f.slots.flatMap Slot.fields

/-- The place of the first field that slot `i` contributes. -/
def start (f : Frame) (i : Nat) : Nat := ((f.slots.take i).flatMap Slot.fields).length

/-- The place of a primary key's field.  A field that was embedded has none. -/
def place? (f : Frame) : PrimaryRef → Option Nat
  | .direct i => if f.slots[i]?.all (·.expansion?.isSome) then none else some (f.start i)
  | .embedded i offset => some (f.start i + offset)

def toModel (f : Frame) (tableName : String) : Model :=
  { id := f.id
    tableName
    fields := f.fields
    primary := f.primary.filterMap f.place?
    unresolved := f.unresolved
    isRecord := true }

end Frame
end Resolution
end RecordMapping
