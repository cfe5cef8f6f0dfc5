import RecordMapping.Proofs.Embedding
import RecordMapping.Proofs.KeyPlaces
import RecordMapping.Proofs.Resolution.PrimaryKey

/-!
The fallback for primary keys.

A column `id` that is settled leaves its model with a key: the key that it had, or the column
itself.  That is a key of references, and a reference to an embedding leads nowhere once the
embedding is replaced.  So a model with such a column can be left without a key only if an embedding
was tagged as its key, and nothing else was.
-/

namespace RecordMapping

open Resolution

theorem Field.forall_unmarked_iff {P : Field → Prop} (hP : ∀ x, P x.unmarked ↔ P x)
    {xs ys : List Field} (h : xs.map Field.unmarked = ys.map Field.unmarked) :
    (∀ x ∈ xs, P x) ↔ ∀ y ∈ ys, P y := by
  have hmap : ∀ zs : List Field, (∀ z ∈ zs.map Field.unmarked, P z) ↔ ∀ z ∈ zs, P z := by
    intro zs
    rw [List.forall_mem_map]
    exact forall₂_congr fun z _ => hP z
  rw [← hmap xs, h, hmap ys]

/-- Nothing of the model but embeddings was tagged as primary key, and no field that it has taken
over is one. -/
structure Schema.TagsOnlyEmbeddings (s : Schema) (id : ModelId) (fields : List Field) : Prop where
  embedding : ¬ s.TagsFields id
  own : ∀ x ∈ fields, x.isTagged = false
  others : ∀ x ∈ fields, ¬ x.IsOwn → x.isPrimaryKey = false

theorem Schema.tagsOnlyEmbeddings_congr {s : Schema} {id : ModelId} {xs ys : List Field}
    (h : xs.map Field.unmarked = ys.map Field.unmarked) :
    s.TagsOnlyEmbeddings id xs ↔ s.TagsOnlyEmbeddings id ys := by
  have howns := Field.forall_unmarked_iff (P := fun x => x.isTagged = false) (fun _ => Iff.rfl) h
  have hothers := Field.forall_unmarked_iff (P := fun x => ¬ x.IsOwn → x.isPrimaryKey = false)
    (fun _ => Iff.rfl) h
  constructor
  · rintro ⟨hembedding, hown, hother⟩
    exact ⟨hembedding, howns.mp hown, hothers.mp hother⟩
  · rintro ⟨hembedding, hown, hother⟩
    exact ⟨hembedding, howns.mpr hown, hothers.mpr hother⟩

namespace Resolution

section

variable {s : Schema} {known : Model → Prop} {f : Frame} {k i : Nat} {slot : Slot}

/-- A frame has a key as soon as it has a column `id`. -/
theorem Progress.primary_ne_nil (h : Progress s known f k) (hslot : f.slots[i]? = some slot)
    (hstored : slot.field.isStored = true) (hcolumn : slot.field.column = "id") :
    f.primary ≠ [] := by
  induction h using Progress.induct generalizing slot with
  | start id hr =>
    obtain ⟨d, -, rfl⟩ := List.mem_map.mp (List.mem_of_getElem? hslot)
    contradiction
  | mark f k j hf ih =>
    obtain ⟨slot₀, hslot₀, rfl | rfl⟩ := Frame.slots_mark_inv hslot
    · exact ih hslot₀ hstored hcolumn
    · have hkept := ih hslot₀ hstored hcolumn
      exact hkept
  | settle f k d v hf hd hv ih =>
    obtain ⟨slot₀, hslot₀, ⟨rfl, -⟩ | ⟨rfl, hignored, rfl⟩⟩ := Frame.slots_settle_inv hslot
    · obtain ⟨slot', hslot', -⟩ := (hf.settle hd hv).exists_slot
        (show (s.exported (f.settle s k v).id)[k]? = some d by rwa [Frame.settle_id])
      rw [hf.primary_settle hd hslot']
      exact List.append_ne_nil_of_left_ne_nil (ih hslot₀ hstored hcolumn) _
    · rw [Frame.settle_of_not_ignored s v hslot₀ hignored, Frame.primary_conclude]
      have hfresh := hf.isFresh hslot₀ (Or.inl (Nat.le_refl k))
      cases ho : (f.finding s slot₀ v).outcome with
      | column scanner =>
        rw [ho] at hcolumn
        by_cases hnil : f.primary = []
        · have hid : slot₀.field.column = "id" := hcolumn
          simp [hnil, hslot₀, hid]
        · simp [hnil]
      | related r =>
        rw [ho] at hstored
        exact absurd (hfresh.isStored.symm.trans hstored) Bool.false_ne_true
      | unresolved key =>
        rw [ho] at hstored
        exact absurd (hfresh.isStored.symm.trans hstored) Bool.false_ne_true
      | embedded =>
        rw [ho] at hstored
        exact absurd (hfresh.isStored.symm.trans hstored) Bool.false_ne_true

/-- Whatever was found with a slot is a field of the finished model. -/
theorem Slot.found_eq_nil_of_fields {slot : Slot}
    (h : ∀ x ∈ slot.fields, x.isPrimaryKey = false) (i : Nat) : slot.found i = [] := by
  unfold Slot.found
  cases hexpansion : slot.expansion? with
  | none =>
    rw [Slot.fields, hexpansion] at h
    simp [h slot.field (List.mem_singleton_self _)]
  | some xs =>
    rw [Slot.fields, hexpansion] at h
    have hxs : xs.findIdxs (·.isPrimaryKey) = [] := List.findIdxs_eq_nil_iff.mpr h
    simp [hxs]

/-- A field that is no embedding stands in the finished model, and is flagged there if it is
tagged. -/
theorem Progress.isPrimaryKey_eq_false_of_not_embeds
    (h : Progress s known f (s.exported f.id).length)
    (hnone : ∀ x ∈ f.fields, x.isPrimaryKey = false) {d : FieldDeclaration}
    (hd : d ∈ s.exported f.id) (hplain : ¬ s.Embeds d) :
    (Field.ofDeclaration d).isPrimaryKey = false := by
  obtain ⟨i, hd⟩ := List.getElem?_of_mem hd
  obtain ⟨slot, hslot, -⟩ := h.exists_slot hd
  obtain ⟨x, hx, hxslot⟩ := h.fields_of_not_embeds hd hslot rfl hplain
  have hmem : x ∈ f.fields := by
    refine List.mem_flatMap.mpr ⟨slot, List.mem_of_getElem? hslot, ?_⟩
    rw [hx]
    exact List.mem_singleton_self x
  by_contra hkey
  rw [Bool.not_eq_false] at hkey
  have hflag : slot.field.unmarked.isPrimaryKey = true := (h.isPrimaryKey hd hslot).1 hkey
  rw [← hxslot] at hflag
  exact absurd ((hnone x hmem).symm.trans hflag) Bool.false_ne_true

/-- With a column `id`, only tagged embeddings leave the finished model without a key. -/
theorem Progress.tagsOnlyEmbeddings_iff (h : Progress s known f (s.exported f.id).length)
    {x : Field} (hx : x ∈ f.fields) (hown : x.IsOwn) (hstored : x.isStored = true)
    (hcolumn : x.column = "id") :
    (∀ y ∈ f.fields, y.isPrimaryKey = false) ↔ s.TagsOnlyEmbeddings f.id f.fields := by
  constructor
  · intro hnone
    refine ⟨?_, ?_, fun y hy _ => hnone y hy⟩
    · intro htags
      obtain ⟨i, d, slot, hd, hslot, -, rfl⟩ := h.slot_of_isOwn hx hown
      apply h.primary_ne_nil hslot hstored hcolumn
      rw [h.primary_eq, List.append_eq_nil_iff, List.flatMap_eq_nil_iff]
      refine ⟨tagged_eq_nil_iff.mpr fun d hd => ?_, ?_⟩
      · by_cases hembeds : s.Embeds d
        · exact htags d hd hembeds
        · exact h.isPrimaryKey_eq_false_of_not_embeds hnone hd hembeds
      · rintro ⟨slot, i⟩ hmem
        have hslot := List.mem_of_getElem? (List.mem_zipIdx_iff_getElem?.mp hmem)
        refine slot.found_eq_nil_of_fields (fun y hy => hnone y ?_) i
        exact List.mem_flatMap.mpr ⟨slot, List.mem_of_mem_take hslot, hy⟩
    · intro y hy
      by_contra htagged
      rw [Bool.not_eq_false] at htagged
      have hkey := h.isPrimaryKey_of_isTagged hy htagged
      rw [hnone y hy] at hkey
      contradiction
  · rintro ⟨hembedding, howns, hothers⟩ y hy
    by_cases hyown : y.IsOwn
    · obtain ⟨i, d, slot, hd, hslot, -, rfl⟩ := h.slot_of_isOwn hy hyown
      by_contra hkey
      rw [Bool.not_eq_false] at hkey
      rcases (h.isPrimaryKey hd hslot).2 hkey with hdeclared | ⟨htagged, -⟩
      · have hsettings : slot.field.settings.contains "PRIMARY_KEY" = true := by
          rw [(h.follows hd hslot).settings, Field.contains_settings_ofDeclaration]
          exact hdeclared
        have hplain := howns slot.field hy
        simp [Field.isTagged, hyown, hsettings] at hplain
      · exact hembedding fun d hd _ => tagged_eq_nil_iff.mp htagged d hd
    · exact hothers y hy hyown

end

/-! ## Models -/

theorem Made.primary_eq_nil_iff {s : Schema} {known : Model → Prop} {m : Model}
    (h : Made s known m) : m.primary = [] ↔ ∀ x ∈ m.fields, x.isPrimaryKey = false := by
  rw [h.primary, List.append_eq_nil_iff, List.findIdxs_eq_nil_iff, List.findIdxs_eq_nil_iff]
  constructor
  · rintro ⟨htagged, hothers⟩ x hx
    have hother := hothers x hx
    rw [htagged x hx] at hother
    simpa using hother
  · intro hnone
    refine ⟨fun x hx => ?_, fun x hx => by simp [hnone x hx]⟩
    by_contra htagged
    rw [Bool.not_eq_false] at htagged
    have hkey := h.isPrimaryKey_of_isTagged hx htagged
    rw [hnone x hx] at hkey
    contradiction

theorem Made.tagsOnlyEmbeddings_iff {s : Schema} {known : Model → Prop} {m : Model}
    (h : Made s known m) {x : Field} (hx : x ∈ m.fields) (hown : x.IsOwn)
    (hstored : x.isStored = true) (hcolumn : x.column = "id") :
    m.primary = [] ↔ s.TagsOnlyEmbeddings m.id m.fields := by
  rw [h.primary_eq_nil_iff]
  cases h with
  | @record f tableName hf hmade =>
    have hid : m.id = f.id := congrArg Model.id hmade
    have hfields : m.fields.map Field.unmarked = f.fields.map Field.unmarked :=
      congrArg Model.fields hmade
    obtain ⟨y, hy, hyx⟩ := List.mem_map.mp (hfields ▸ List.mem_map_of_mem hx)
    have hyown : y.unmarked.IsOwn ∧ y.unmarked.isStored = true ∧ y.unmarked.column = "id" := by
      rw [hyx]
      exact ⟨hown, hstored, hcolumn⟩
    rw [Field.forall_unmarked_iff (fun _ => Iff.rfl) hfields,
      Schema.tagsOnlyEmbeddings_congr hfields, hid]
    exact hf.tagsOnlyEmbeddings_iff hy hyown.1 hyown.2.1 hyown.2.2
  | blank _ hblank => exact absurd hx (Model.not_mem_fields_of_unmarked hblank x)

end Resolution

namespace Registry

section

variable {s : Schema} {r : Registry} (hr : Occurs (r.scope s) ⟨{}, []⟩)

include hr

/-- A model without a key has taken over none. -/
theorem primary_eq_nil_of_absorbs {i : Nat} {a b : Model} (ha : r.models[i]? = some a)
    (hrec : a.isRecord = true) (hb : b ∈ r.models) (hab : s.Absorbs a.id b.id)
    (hback : ¬ s.Reaches b.id a.id) (hnil : a.primary = []) : b.primary = [] := by
  have hkeys := (hr.traced.of_has (List.mem_of_getElem? ha)).primary_eq_nil_iff.mp hnil
  obtain ⟨j, c, -, hc, hid, hcopied⟩ := exists_of_absorbs hr ha hrec hab hback
  obtain rfl : c = b := eq_of_id_eq hr (List.mem_of_getElem? hc) hb hid
  refine (hr.traced.of_has hb).primary_eq_nil_iff.mpr fun y hy => ?_
  obtain ⟨x, hx, hxy⟩ := hcopied y hy
  show y.core.isPrimaryKey = false
  rw [← hxy]
  exact hkeys x hx

/-- A model with a column `id` and without a key has the column from one that declares it and is
without a key too.  The induction is on the place of the model, as an absorbed one stands before
it. -/
theorem exists_tagsOnlyEmbeddings {i : Nat} {a : Model} (ha : r.models[i]? = some a)
    (hforward : s.AbsorbsForward a.id) {x : Field} (hx : x ∈ a.fields)
    (hstored : x.isStored = true) (hcolumn : x.column = "id") (hnil : a.primary = []) :
    ∃ b ∈ r.models, Relation.ReflTransGen s.Absorbs a.id b.id ∧
      (∃ y ∈ b.fields, y.IsOwn ∧ y.isStored = true ∧ y.column = "id") ∧
      s.TagsOnlyEmbeddings b.id b.fields := by
  induction i using Nat.strongRecOn generalizing a x with
  | ind i ih =>
    have hmem := List.mem_of_getElem? ha
    rcases isOwn_or_of_absorbs hr ha hforward hx with hown | ⟨j, b, hlt, hb, hab, y, hy, hxy⟩
    · exact ⟨a, hmem, .refl, ⟨x, hx, hown, hstored, hcolumn⟩,
        ((hr.traced.of_has hmem).tagsOnlyEmbeddings_iff hx hown hstored hcolumn).mp hnil⟩
    · have hrec := isRecord_of_mem_fields hr hmem hx
      have hkeyless := primary_eq_nil_of_absorbs hr ha hrec (List.mem_of_getElem? hb) hab
        (hforward a.id b.id .refl hab) hnil
      have hid : y.core.isStored = true ∧ y.core.column = "id" := by
        rw [← hxy]
        exact ⟨hstored, hcolumn⟩
      obtain ⟨c, hc, hreach, hown, htags⟩ :=
        ih j hlt hb (hforward.of_absorbs hab) hy hid.1 hid.2 hkeyless
      exact ⟨c, hc, .head hab hreach, hown, htags⟩

end

/-- After any session, a stored model with a column `id` of its own has a primary key, unless
embeddings and nothing else were tagged as its key.  If no model that it absorbs refers back, a
column `id` that it has taken over leaves it without a key only if that is so where the column is
declared. -/
theorem primary_session (s : Schema) (c : Config) (qs : List Request) (m : Model)
    (hm : m ∈ (serveAll s { config := c } qs).models) (x : Field) (hx : x ∈ m.fields)
    (hstored : x.isStored = true) (hcolumn : x.column = "id") :
    (x.IsOwn → (m.primary = [] ↔ s.TagsOnlyEmbeddings m.id m.fields)) ∧
      (s.AbsorbsForward m.id → m.primary = [] →
        ∃ b ∈ (serveAll s { config := c } qs).models, Relation.ReflTransGen s.Absorbs m.id b.id ∧
          (∃ y ∈ b.fields, y.IsOwn ∧ y.isStored = true ∧ y.column = "id") ∧
          s.TagsOnlyEmbeddings b.id b.fields) := by
  have hoccurs := occurs_session s c qs
  obtain ⟨i, hi⟩ := List.getElem?_of_mem hm
  refine ⟨fun hown => ?_, fun hforward hnil => ?_⟩
  · exact (hoccurs.traced.of_has hm).tagsOnlyEmbeddings_iff hx hown hstored hcolumn
  · exact exists_tagsOnlyEmbeddings hoccurs hi hforward hx hstored hcolumn hnil

/-- Machines and parts with a base that they embed.  A part has it tagged as its key. -/
def machines : Schema :=
  let number : FieldType := .scalar "i64"
  { declarations :=
      [{ name := "Machine"
         fields :=
          [{ name := "Base", type := .model 2, annotation := { mapping := "embedded" } },
           { name := "Id", type := number }] },
       { name := "Part"
         fields :=
          [{ name := "Base", type := .model 2
             annotation := { mapping := "embedded;primary_key" } },
           { name := "Id", type := number }] },
       { name := "Base", fields := [{ name := "Code", type := .scalar "String" }] }] }

/-- A machine has its column `id` for a key. -/
theorem primary_session_machines :
    ∃ m ∈ (serveAll machines {} [.get 0]).models, ∃ x ∈ m.fields, x.IsOwn ∧ x.isStored = true ∧
      x.column = "id" ∧ m.primary = [1] ∧ ¬ machines.TagsOnlyEmbeddings m.id m.fields := by
  have hmodel : ((serveAll machines {} [.get 0]).models[1]?.bind fun m => m.fields[1]?.map fun x =>
      (x.path.length, x.isStored, x.column, m.primary)) = some (1, true, "id", [1]) := by
    decide +kernel
  obtain ⟨m, hm, hfield⟩ := Option.bind_eq_some_iff.mp hmodel
  obtain ⟨x, hx, heq⟩ := Option.map_eq_some_iff.mp hfield
  simp only [Prod.mk.injEq] at heq
  obtain ⟨hown, hstored, hcolumn, hprimary⟩ := heq
  have hmem := List.mem_of_getElem? hm
  have hxmem := List.mem_of_getElem? hx
  refine ⟨m, hmem, x, hxmem, hown, hstored, hcolumn, hprimary, ?_⟩
  rw [← (primary_session machines {} [.get 0] m hmem x hxmem hstored hcolumn).1 hown, hprimary]
  exact List.cons_ne_nil 1 []

/-- A part has a column `id` and no key. -/
theorem primary_eq_nil_machines :
    ∃ m ∈ (serveAll machines {} [.get 1]).models, ∃ x ∈ m.fields, x.IsOwn ∧ x.isStored = true ∧
      x.column = "id" ∧ x.isPrimaryKey = false ∧ m.primary = [] := by
  decide +kernel

end Registry
end RecordMapping
