import RecordMapping.Number.Fixed
import RecordMapping.Resolution.Resolve

/-!
A registry of mapped models.

A model is resolved when it is asked for the first time, together with everything it reaches, and
stays as it was resolved.  Later passes only mark fields of it as keys.  A model is named by its
place in the registry, which never changes.
-/

namespace RecordMapping

open Resolution

/-- The counts have no bound, as a session stays below the size of the machine words that hold them. -/
structure Registry where
  config : Config := {}
  /-- In the order in which their resolution ended. -/
  models : List Model := []
  /-- How often a model was asked for that was there. -/
  hits : Nat := 0
  /-- How often a model was asked for that was not there. -/
  misses : Nat := 0
  /-- How many models the passes have resolved. -/
  resolved : Nat := 0

namespace Registry

def position? (r : Registry) (id : ModelId) : Option Nat := r.models.findIdx? (·.id == id)

def contains (r : Registry) (id : ModelId) : Bool := r.models.any (·.id == id)

def size (r : Registry) : Nat := r.models.length

def isEmpty (r : Registry) : Bool := r.models.isEmpty

/-- The part of all requests that found their model, with six decimal places. -/
def hitRate (r : Registry) : String :=
  if r.hits + r.misses = 0 then (Number.Fraction.mk 0 1).fixed 6
  else (Number.magnitude (r.hits.toFloat / (r.hits + r.misses).toFloat)).fixed 6

/-! ## Publishing a pass -/

/-- The models after a mark. -/
def markStored (models : List Model) (m : Mark) : List Model :=
  models.map fun x => if x.id = m.model then x.mark m.field else x

/-- The models with one more, unless they have one of its identity. -/
def insertNew (models : List Model) (m : Model) : List Model :=
  if models.any (·.id == m.id) then models else models ++ [m]

/-- Take over the marks and the models of a pass. -/
def publish (r : Registry) (p : Pass) : Registry :=
  { r with
    models := p.finished.foldl insertNew (p.marks.foldl markStored r.models)
    resolved := r.resolved + p.finished.length }

/-! ## Requests -/

def scope (r : Registry) (s : Schema) : Scope :=
  { schema := s, singularTables := r.config.singularTables, stored := r.models }

/-- The place of a model, which is resolved if it is not there.  The name that a record brings along
for its table counts only then. -/
def fetch (s : Schema) (r : Registry) (id : ModelId) (instance? : Option String) :
    Registry × Nat :=
  match r.position? id with
  | some i => ({ r with hits := r.hits + 1 }, i)
  | none =>
    let r := { r with misses := r.misses + 1 }
    let r := r.publish (run (r.scope s) id instance?)
    (r, r.models.findIdx (·.id == id))

inductive Request where
  | get (id : ModelId)
  /-- For a record that may bring along a name for its table. -/
  | getFor (id : ModelId) (instance? : Option String)
  /-- A strict registry may refuse. -/
  | tryGet (id : ModelId)
  | tableName (id : ModelId)
deriving DecidableEq, Repr

inductive Answer where
  /-- The place of the model. -/
  | model (place : Nat)
  | refusal (e : MappingError)
  | name (table : String)
deriving DecidableEq, Repr

def Request.model : Request → ModelId
  | .get id | .getFor id _ | .tryGet id | .tableName id => id

def Request.instance? : Request → Option String
  | .getFor _ instance? => instance?
  | _ => none

/-- What a registry answers from the model at a place. -/
def answer (s : Schema) (r : Registry) (place : Nat) : Request → Answer
  | .get _ | .getFor _ _ => .model place
  | .tryGet id =>
    match if r.config.strict then r.models[place]?.bind (·.objection? (s.name id)) else none with
    | some e => .refusal e
    | none => .model place
  | .tableName _ => .name (r.config.tableName ((r.models[place]?.map (·.tableName)).getD ""))

/-- A request that is refused has still resolved its model. -/
def serve (s : Schema) (r : Registry) (q : Request) : Registry × Answer :=
  let (r, place) := r.fetch s q.model q.instance?
  (r, r.answer s place q)

/-- The registry after a list of requests. -/
def serveAll (s : Schema) (r : Registry) (qs : List Request) : Registry :=
  qs.foldl (fun r q => (r.serve s q).1) r

end Registry
end RecordMapping
