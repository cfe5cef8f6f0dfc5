import RecordMapping.Resolution.Frame

/-!
One pass over a model and everything it reaches.

A model that another one refers to is resolved inside the same pass, unless its fields can be read
already: in a frame, if its resolution has begun, among the models finished in this pass, or among
those that earlier passes have stored.
-/

namespace RecordMapping
namespace Resolution

/-- What a pass starts from and does not change. -/
structure Scope where
  schema : Schema
  singularTables : Bool
  stored : List Model

structure Pass where
  /-- The models whose resolution has begun, the last one first. -/
  frames : List Frame := []
  /-- The models whose resolution has ended, in order. -/
  finished : List Model := []
  /-- The marks made on models outside the frames, in order. -/
  marks : List Mark := []

def viewModel (m : Model) : View :=
  { fields := m.fields, isRecord := m.isRecord, key? := m.primaryFields.head? }

namespace Pass

/-! ## Reading -/

def view? (s : Scope) (p : Pass) (id : ModelId) : Option View :=
  ((p.frames.find? (·.id == id)).map Frame.view).or
    (((p.finished.find? (·.id == id)).or (s.stored.find? (·.id == id))).map viewModel)

def knows (s : Scope) (p : Pass) (id : ModelId) : Bool := (p.view? s id).isSome

def side (s : Scope) (p : Pass) (id : ModelId) : Side :=
  { id, name := s.schema.name id
    view := (p.view? s id).getD { fields := [], isRecord := false, key? := none } }

/-! ## Steps -/

/-- Begin the resolution of a model. -/
def enter (s : Scope) (p : Pass) (id : ModelId) : Pass :=
  { p with frames := .ofDeclarations id (s.schema.exported id) :: p.frames }

/-- A mark is set where the field can be read now.  One outside the frames is also kept, since a
stored model is not the pass's to change. -/
def mark (p : Pass) (m : Mark) : Pass :=
  if p.frames.any (·.id == m.model) then
    { p with frames := p.frames.map fun f => if f.id = m.model then f.mark m.field else f }
  else
    { p with
      finished := p.finished.map fun x => if x.id = m.model then x.mark m.field else x
      marks := p.marks ++ [m] }

def markAll (p : Pass) (marks : List Mark) : Pass := marks.foldl mark p

/-- Change the model that is being resolved. -/
def modifyTop (p : Pass) (g : Frame → Frame) : Pass :=
  { p with frames := p.frames.modifyHead g }

/-- Give a field of the topmost model what was found for it.  The fields of an embedded model are
taken as they are after the marks. -/
def conclude (s : Scope) (p : Pass) (i : Nat) (target : ModelId) : Outcome → Pass
  | .column scanner => p.modifyTop (·.store i scanner)
  | .related r => p.modifyTop (·.relate i r)
  | .unresolved foreignKey => p.modifyTop (·.leaveUnresolved i foreignKey)
  | .embedded => p.modifyTop (·.embed i (p.side s target).view.fields)

/-- Settle slot `i` of the topmost model, whose target is known by now.  An ignored field stays as
it is. -/
def settle (s : Scope) (p : Pass) (i : Nat) : Pass :=
  match p.frames with
  | [] => p
  | frame :: _ =>
    match frame.slots[i]? with
    | none => p
    | some slot =>
      if slot.field.isIgnored then p
      else
        let finding := find (p.side s frame.id) (p.side s) slot.field slot.anonymous
        (p.markAll finding.marks).conclude s i
          (slot.field.type.associated?.getD frame.id) finding.outcome

/-- Add a model that has no more to resolve. -/
def finish (p : Pass) (m : Model) : Pass := { p with finished := p.finished ++ [m] }

/-- End the resolution of the topmost model. -/
def leave (p : Pass) (tableName : String) : Pass :=
  match p.frames with
  | [] => p
  | frame :: rest => { p with frames := rest }.finish (frame.toModel tableName)

end Pass
end Resolution
end RecordMapping
