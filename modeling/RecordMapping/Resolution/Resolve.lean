import RecordMapping.Resolution.Pass

/-!
Resolving a model with everything it reaches.
-/

namespace RecordMapping

namespace Schema

/-- The models that are not open. -/
def unopened (s : Schema) (opened : List ModelId) : List ModelId :=
  (List.range s.declarations.length).filter (· ∉ opened)

theorem length_unopened_lt {s : Schema} {opened : List ModelId} {id : ModelId}
    (hr : s.isRecord id = true) (ho : id ∉ opened) :
    (s.unopened (id :: opened)).length < (s.unopened opened).length := by
  have hmem : id ∈ s.unopened opened := by
    simp [unopened, s.lt_of_isRecord hr, ho]
  have heq : s.unopened (id :: opened) = (s.unopened opened).filter (· ≠ id) := by
    simp only [unopened, List.filter_filter]
    apply List.filter_congr
    intro x _
    simp [not_or]
  rw [heq]
  exact List.length_filter_lt_length_iff_exists.mpr ⟨id, hmem, by simp⟩

/-- The name that a model's table gets: the one a record brings along, else the one its type chooses,
else the one derived from the type's name. -/
def tableName (s : Schema) (singular : Bool) (id : ModelId) (instance? : Option String) :
    String :=
  let d := s.declaration id
  (instance?.or d.tableName?).getD (Naming.tableName d.name singular)

end Schema

namespace Resolution

/-- Resolve the model `id`, and before each of its fields the model that the field refers to, unless
that one is known.  `opened` lists the models that are being resolved.  A model is resolved only
while it is not among them, which bounds the depth by the number of models. -/
def resolve (s : Scope) (opened : List ModelId) (id : ModelId) (instance? : Option String)
    (p : Pass) : Pass :=
  if h : s.schema.isRecord id = true ∧ id ∉ opened then
    let visit (p : Pass) (slot : FieldDeclaration × Nat) : Pass :=
      let reached :=
        match slot.1.target? with
        | none => p
        | some target =>
          if p.knows s target then p else resolve s (id :: opened) target none p
      reached.settle s slot.2
    ((s.schema.exported id).zipIdx.foldl visit (p.enter s id)).leave
      (s.schema.tableName s.singularTables id instance?)
  else p.finish (.blank id)
termination_by (s.schema.unopened opened).length
decreasing_by exact Schema.length_unopened_lt h.1 h.2

/-- The pass that resolves a model from nothing but what is stored. -/
def run (s : Scope) (id : ModelId) (instance? : Option String) : Pass :=
  resolve s [] id instance? {}

end Resolution
end RecordMapping
