import RecordMapping.Proofs.Embedding
import RecordMapping.Proofs.Resolution.Keys

/-!
The fields that relationships refer to.

A relationship names a field of the model that holds its key.  The model has this field, and it is marked,
unless it is an embedding.  The field is looked for by name and column alone, so that it may be one that
is ignored or that holds records itself.  It is stored as a column exactly if it is neither.
-/

namespace RecordMapping

open Resolution

namespace Registry

section

variable {s : Schema} {r : Registry} (hr : Occurs (r.scope s) ⟨{}, []⟩)

include hr

theorem isColumn_iff_of_isOwn {a : Model} (ha : a ∈ r.models) {x : Field} (hx : x ∈ a.fields)
    (hown : x.IsOwn) : x.isColumn = true ↔ s.Stores x := by
  cases hr.traced.of_has ha with
  | blank _ hblank => exact absurd hx (Model.not_mem_fields_of_unmarked hblank x)
  | @record f tableName hf hmade =>
    obtain ⟨i, d, slot, hd, hslot, -, hxslot⟩ := hf.slot_of_mem hmade hx hown
    have hlt := (List.getElem?_eq_some_iff.mp hd).1
    have hsettled : slot.field.unmarked.isColumn = true ↔ s.Stores slot.field.unmarked :=
      hf.isColumn_iff hlt hd hslot
    rw [← hxslot] at hsettled
    exact hsettled

/-- What holds of columns that a model declares holds of those that it takes over, unless a model that it
absorbs refers back. -/
theorem isColumn_iff {a : Model} (ha : a ∈ r.models) (hforward : s.AbsorbsForward a.id) {x : Field}
    (hx : x ∈ a.fields) : x.isColumn = true ↔ s.Stores x := by
  have hrec : a.isRecord = true := isRecord_of_mem_fields hr ha hx
  obtain ⟨i, hi⟩ := List.getElem?_of_mem ha
  have hcore : ∀ f : Field, (f.isColumn = true ↔ s.Stores f) ↔
      (f.core.isColumn = true ↔ s.Stores f.core) := fun _ => Iff.rfl
  apply (forall_fields_iff hr hcore hi hrec hforward).mpr _ x hx
  intro b hb _ y hy hown
  exact isColumn_iff_of_isOwn hr hb hy hown

end

/-- Between two requests, the stored models keep the keys. -/
theorem keeps_iff {s : Schema} {r : Registry} {id : ModelId} {key : KeyRef} :
    Pass.Keeps (r.scope s) {} id key ↔
      ∃ h ∈ r.models, h.id = id ∧ (s.Replaces id key ∨ Carries h.fields key) := by
  rw [Pass.Keeps, contents_scope]
  constructor
  · rintro ⟨xs, hxs, hkey⟩
    obtain ⟨h, hh, heq⟩ := List.mem_map.mp hxs
    obtain ⟨rfl, rfl⟩ := Prod.mk.inj heq
    exact ⟨h, hh, rfl, hkey⟩
  · rintro ⟨h, hh, rfl, hkey⟩
    exact ⟨h.fields, List.mem_map_of_mem hh, hkey⟩

/-- After any session, the model that holds the key of a declared relationship has the field that the
relationship names, marked, unless this is an embedding.  The field is stored as a column if and only if
it takes part in the mapping and holds no records. -/
theorem keyField_session (s : Schema) (c : Config) (qs : List Request) (a : Model)
    (ha : a ∈ (serveAll s { config := c } qs).models) (x : Field) (hx : x ∈ a.fields)
    (hown : x.IsOwn) (rel : Relationship) (hrel : x.relationship? = some rel)
    (hkind : rel.kind ≠ .manyToMany) :
    ∃ h ∈ (serveAll s { config := c } qs).models, rel.HeldBy a.id x.type h.id ∧
      (s.Replaces h.id rel.foreignKey ∨
        ∃ y ∈ h.fields, y.keyRef = rel.foreignKey ∧ y.isForeignKey = true ∧
          (y.IsOwn ∨ s.AbsorbsForward h.id → (y.isColumn = true ↔ s.Stores y))) := by
  have hoccurs := occurs_session s c qs
  generalize serveAll s { config := c } qs = r at ha hoccurs
  have hcontents : (a.id, a.fields) ∈ Pass.contents (r.scope s) {} := by
    rw [contents_scope]
    exact List.mem_map_of_mem ha
  obtain ⟨id, hheld, hkeeps⟩ := hoccurs.keysKept a.id a.fields hcontents x hx hown rel hrel hkind
  obtain ⟨h, hh, rfl, hkey⟩ := keeps_iff.mp hkeeps
  refine ⟨h, hh, hheld, hkey.imp_right ?_⟩
  rintro ⟨y, hy, href, hflag⟩
  refine ⟨y, hy, href, hflag, ?_⟩
  rintro (hyown | hforward)
  · exact isColumn_iff_of_isOwn hoccurs hh hy hyown
  · exact isColumn_iff hoccurs hh hforward hy

/-- The key of a user's emails is a field of the emails. -/
theorem keyField_session_emails :
    ∃ a ∈ (serveAll emails {} [.get 0]).models, ∃ x ∈ a.fields, x.IsOwn ∧
      ∃ rel, x.relationship? = some rel ∧ rel.kind ≠ .manyToMany ∧
        ∃ h ∈ (serveAll emails {} [.get 0]).models, rel.HeldBy a.id x.type h.id ∧
          (emails.Replaces h.id rel.foreignKey ∨
            ∃ y ∈ h.fields, y.keyRef = rel.foreignKey ∧ y.isForeignKey = true ∧
              (y.IsOwn ∨ emails.AbsorbsForward h.id → (y.isColumn = true ↔ emails.Stores y))) := by
  have hmodel : ((serveAll emails {} [.get 0]).models[1]?.bind fun a => a.fields[1]?.map fun x =>
      (x.path.length, x.relationship?.map (·.kind))) = some (1, some .hasMany) := by
    decide +kernel
  obtain ⟨a, ha, hfield⟩ := Option.bind_eq_some_iff.mp hmodel
  obtain ⟨x, hx, heq⟩ := Option.map_eq_some_iff.mp hfield
  obtain ⟨hown, hrelated⟩ := Prod.mk.inj heq
  obtain ⟨rel, hrel, hkind⟩ := Option.map_eq_some_iff.mp hrelated
  have hne : rel.kind ≠ .manyToMany := by
    rw [hkind]
    exact nofun
  have hmem := List.mem_of_getElem? ha
  have hxmem := List.mem_of_getElem? hx
  exact ⟨a, hmem, x, hxmem, hown, rel, hrel, hne,
    keyField_session emails {} [.get 0] a hmem x hxmem hown rel hrel hne⟩

/-- Posts with an author, whose key is ignored. -/
def posts : Schema :=
  { declarations :=
      [{ name := "Post"
         fields :=
          [{ name := "Id", type := .scalar "i64" },
           { name := "Author", type := .model 1 },
           { name := "AuthorId", type := .scalar "i64", annotation := { sql := "-" } }] },
       { name := "Author"
         fields := [{ name := "Id", type := .scalar "i64" }] }] }

/-- The post belongs to its author by a field that is not stored. -/
theorem isColumn_eq_false_posts :
    ∃ a ∈ (serveAll posts {} [.get 0]).models, ∃ x ∈ a.fields, ∃ rel,
      x.relationship? = some rel ∧ rel.kind = .belongsTo ∧
        ∀ y ∈ a.fields, y.keyRef = rel.foreignKey → y.isColumn = false := by
  decide +kernel

end Registry
end RecordMapping
