import RecordMapping.Proofs.Embedding
import RecordMapping.Proofs.Resolution.Nesting

/-!
Where fields come from.

The path of a field leads through embeddings to the declaration that the field was made from, also if
what was taken over on the way were the fields of models that were still open.  Each declared field has
one block among the fields, in order, so that paths are told apart by their heads as long as the names
of the declared fields are.
-/

namespace RecordMapping

open Resolution

/-- From the model, the path leads to the declared field.  All steps but the last are embeddings. -/
inductive Schema.Leads (s : Schema) : ModelId → List String → FieldDeclaration → Prop
  | own {id : ModelId} {d : FieldDeclaration} (hd : d ∈ s.exported id) : Leads s id [d.name] d
  | through {id t : ModelId} {e d : FieldDeclaration} {path : List String} (he : e ∈ s.exported id)
      (hembeds : s.Embeds e) (ht : e.type.Holds t) (hd : Leads s t path d) :
      Leads s id (e.name :: path) d

namespace Field

/-- The field with another path. -/
def withPath (x : Field) (path : List String) : Field := { x with path }

/-- The field's path leads to a declared field, and apart from the path and what was found for it, the
field is as it was declared there. -/
def ComesFrom (s : Schema) (id : ModelId) (x : Field) : Prop :=
  ∃ d, s.Leads id x.path d ∧ x.skeleton = (ofDeclaration d).withPath x.path

theorem skeleton_within (outer : String) (x : Field) :
    (x.within outer).skeleton = x.skeleton.within outer := rfl

theorem within_withPath (outer : String) (x : Field) (path : List String) :
    (x.withPath path).within outer = x.withPath (outer :: path) := rfl

end Field

/-- The part of a model that stems from one declared field is that field, or what its embedding leads
to. -/
structure Share.BlockOf (s : Schema) (d : FieldDeclaration) (share : Share) : Prop where
  plain : ¬ s.Embeds d → ∃ x, share.fields = [x] ∧ x.skeleton = Field.ofDeclaration d
  embedded : s.Embeds d → ∀ x ∈ share.fields, ∃ rest, rest ≠ [] ∧ x.path = d.name :: rest

/-- The fields of the model come from declarations, in blocks, and are told apart by their paths. -/
structure Model.KeepsOrigins (s : Schema) (m : Model) : Prop where
  origin : ∀ x ∈ m.fields, x.ComesFrom s m.id
  blocks : ∃ shares, m.ComposedOf shares ∧
    List.Forall₂ (Share.BlockOf s) (s.exported m.id) shares
  distinct : (∀ id, ((s.exported id).map (·.name)).Nodup) → (m.fields.map (·.path)).Nodup

namespace Resolution

/-! ## Origins -/

theorem Slot.Follows.comesFrom {s : Schema} {id : ModelId} {d : FieldDeclaration} {slot : Slot}
    (h : slot.Follows d) (hd : d ∈ s.exported id) : slot.field.ComesFrom s id := by
  refine ⟨d, ?_, ?_⟩
  · rw [h.path]
    exact .own hd
  · rw [← h.field]
    rfl

theorem hereditary_comesFrom (s : Schema) :
    Hereditary s fun id xs => ∀ x ∈ xs, x.ComesFrom s id := by
  apply Hereditary.of_field (P := fun id x => x.ComesFrom s id)
  · intro id x
    rfl
  · intro known f k i d slot h hd hslot
    exact (h.follows hd hslot).comesFrom (List.mem_of_getElem? hd)
  · rintro id t e x he hembeds ht ⟨d, hleads, hskeleton⟩
    refine ⟨d, .through he hembeds ht hleads, ?_⟩
    rw [x.skeleton_within, hskeleton, Field.within_withPath]
    rfl

/-! ## Distinct paths -/

section

variable {s : Schema} {Q : ModelId → List Field → Prop} {d : FieldDeclaration} {slot : Slot}
  {ds : List FieldDeclaration} {slots : List Slot}

/-- All paths of a block begin with the name of its declared field. -/
theorem Slot.Contributes.head?_path (h : slot.Contributes s Q d) (hfollows : slot.Follows d)
    {x : Field} (hx : x ∈ slot.fields) : x.path.head? = some d.name := by
  cases h with
  | plain hplain hfields =>
    rw [hfields, List.mem_singleton] at hx
    rw [hx, hfollows.path]
    rfl
  | embedded hembeds ht hxs hfields =>
    rw [hfields] at hx
    obtain ⟨y, -, rfl⟩ := List.mem_map.mp hx
    rfl

theorem Slot.Contributes.nodup_paths
    (h : slot.Contributes s (fun _ xs => (xs.map (·.path)).Nodup) d) :
    (slot.fields.map (·.path)).Nodup := by
  cases h with
  | plain hplain hfields =>
    rw [hfields]
    exact List.nodup_singleton _
  | @embedded t xs hembeds ht hxs hfields =>
    have hpaths : slot.fields.map (·.path) = (xs.map (·.path)).map (d.name :: ·) := by
      rw [hfields, List.map_map, List.map_map]
      rfl
    rw [hpaths]
    exact hxs.map (List.cons_injective)

theorem exists_head?_path
    (h : List.Forall₂ (fun d slot => slot.Follows d ∧ slot.Contributes s Q d) ds slots) {x : Field}
    (hx : x ∈ slots.flatMap Slot.fields) : ∃ d ∈ ds, x.path.head? = some d.name := by
  obtain ⟨slot, hslot, hx⟩ := List.mem_flatMap.mp hx
  obtain ⟨d, hd, hfollows, hcontributes⟩ := exists_of_forall₂ h.flip hslot
  exact ⟨d, hd, hcontributes.head?_path hfollows hx⟩

/-- Blocks of different names have no path in common. -/
theorem nodup_paths_flatMap
    (h : List.Forall₂ (fun d slot => slot.Follows d ∧
      slot.Contributes s (fun _ xs => (xs.map (·.path)).Nodup) d) ds slots)
    (hnames : (ds.map (·.name)).Nodup) : ((slots.flatMap Slot.fields).map (·.path)).Nodup := by
  induction h with
  | nil => exact List.nodup_nil
  | @cons d slot ds slots hslot hslots ih =>
    rw [List.map_cons, List.nodup_cons] at hnames
    rw [List.flatMap_cons, List.map_append, List.nodup_append]
    refine ⟨hslot.2.nodup_paths, ih hnames.2, ?_⟩
    rintro path hpath _ hpath' rfl
    obtain ⟨x, hx, rfl⟩ := List.mem_map.mp hpath
    obtain ⟨y, hy, hyx⟩ := List.mem_map.mp hpath'
    obtain ⟨d', hd', hhead⟩ := exists_head?_path hslots hy
    rw [hyx, hslot.2.head?_path hslot.1 hx] at hhead
    apply hnames.1
    rw [Option.some.inj hhead]
    exact List.mem_map_of_mem hd'

end

theorem hereditary_nodup_paths {s : Schema} (h : ∀ id, ((s.exported id).map (·.name)).Nodup) :
    Hereditary s fun _ xs => (xs.map (·.path)).Nodup := by
  refine ⟨?_, ?_, ?_⟩
  · intro id xs ys hxy hxs
    have hpaths : xs.map (·.path) = ys.map (·.path) :=
      Field.map_congr_of_unmarked (fun _ => rfl) hxy
    rwa [← hpaths]
  · intro known f k hf
    have hpaths : (f.slots.map (·.field)).map (·.path) =
        ((s.exported f.id).map (·.name)).map ([·]) := by
      rw [List.map_map, List.map_map]
      exact map_eq_of_forall₂ (hf.forall₂_follows.imp fun _ _ hslot => hslot.path)
    rw [hpaths]
    exact (h f.id).map List.singleton_injective
  · exact fun known f hf hslots => nodup_paths_flatMap hslots (h f.id)

/-! ## Blocks -/

theorem Progress.blockOf {s : Schema} {known : Model → Prop} {f : Frame} {i : Nat}
    {d : FieldDeclaration} {slot : Slot} {share : Share}
    (h : Progress s known f (s.exported f.id).length) (hd : (s.exported f.id)[i]? = some d)
    (hslot : f.slots[i]? = some slot)
    (hfields : share.fields.map Field.unmarked = slot.fields.map Field.unmarked) :
    share.BlockOf s d := by
  have hlt := (List.getElem?_eq_some_iff.mp hd).1
  refine ⟨?_, fun hembeds => (h.fields_of_embeds hlt hd hslot hfields hembeds).2⟩
  intro hplain
  obtain ⟨x, hx, hxslot⟩ := h.fields_of_not_embeds hd hslot hfields hplain
  refine ⟨x, hx, ?_⟩
  show x.unmarked.skeleton = _
  rw [hxslot]
  exact (h.follows hd hslot).field

theorem Made.exists_blocks {s : Schema} {known : Model → Prop} {m : Model} (h : Made s known m)
    (hrec : m.isRecord = true) :
    ∃ shares, m.ComposedOf shares ∧
      List.Forall₂ (Share.BlockOf s) (s.exported m.id) shares := by
  cases h with
  | record hf hmade =>
    apply hf.shares_of hmade
    intro i d slot share hd hslot hfields hopen
    exact hf.blockOf hd hslot hfields
  | blank _ hblank =>
    rw [Model.eq_blank_of_unmarked hblank] at hrec
    contradiction

end Resolution

namespace Registry

/-- What a model passes on to all fields that are taken over from it holds of every field that is
stored. -/
theorem field_of_hereditary {s : Schema} {P : ModelId → Field → Prop}
    (hP : Hereditary s fun id xs => ∀ x ∈ xs, P id x) {r : Registry}
    (hr : Occurs (r.scope s) ⟨{}, []⟩) {m : Model} (hm : m ∈ r.models) {x : Field}
    (hx : x ∈ m.fields) : P m.id x :=
  hP.of_mem hr hm (isRecord_of_mem_fields hr hm hx) x hx

/-- After any session, the path of each field leads to the declaration that the field was made from.  The
declared fields have their blocks in order, and no path occurs twice unless some model has two fields
of one name. -/
theorem origins_session (s : Schema) (c : Config) (qs : List Request) (m : Model)
    (hm : m ∈ (serveAll s { config := c } qs).models) (hr : m.isRecord = true) :
    m.KeepsOrigins s := by
  have hoccurs := occurs_session s c qs
  refine ⟨?_, ?_, ?_⟩
  · exact (hereditary_comesFrom s).of_mem hoccurs hm hr
  · exact (hoccurs.traced.of_has hm).exists_blocks hr
  · exact fun hnames => (hereditary_nodup_paths hnames).of_mem hoccurs hm hr

/-- A person embeds an address, which refers back to its person. -/
theorem origins_session_addresses :
    ∃ m ∈ (serveAll addresses {} [.get 0]).models, m.isRecord = true ∧
      m.fields.map (·.path) =
        [["Id"], ["Address", "Street"], ["Address", "Owner"], ["Address", "OwnerId"]] ∧
      m.KeepsOrigins addresses := by
  have hmodel : ((serveAll addresses {} [.get 0]).models[1]?.map fun m =>
      (m.isRecord, m.fields.map (·.path))) =
        some (true, [["Id"], ["Address", "Street"], ["Address", "Owner"], ["Address", "OwnerId"]]) := by
    decide +kernel
  obtain ⟨m, hm, heq⟩ := Option.map_eq_some_iff.mp hmodel
  obtain ⟨hr, hpaths⟩ := Prod.mk.inj heq
  have hmem := List.mem_of_getElem? hm
  exact ⟨m, hmem, hr, hpaths, origins_session addresses {} [.get 0] m hmem hr⟩

end Registry
end RecordMapping
