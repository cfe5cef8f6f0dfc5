import RecordMapping.Proofs.Resolution.Chronicle
import RecordMapping.Proofs.Resolution.PrimaryKey
import RecordMapping.Proofs.Resolution.Related

/-!
What join tables refer to.

A join table is made while its owner is open, and so may the other model be.  All that can be read of an
open model is what it declares.  The column that is read is that of the model's primary key as long as
the key begins with a field that the model declares itself.  Of a model that has ended, the key is read
as it is.
-/

namespace RecordMapping

open Resolution

/-- The table joins the model `a` at place `i`, which declares it, to the model `b` at place `j`. -/
structure JoinTable.Connects (s : Schema) (i : Nat) (a : Model) (table : JoinTable) (j : Nat)
    (b : Model) : Prop where
  source : table.source.model = a.id
  destination : table.destination.model = b.id
  earlier : ¬ s.Reaches b.id a.id → j < i
  sourceColumn : s.TagsFields a.id → (table.source.primaryColumn = a.keyColumn ↔ a.BeginsKey)
  endedColumn : j < i → table.destination.primaryColumn = b.keyColumn
  openColumn : i ≤ j → s.TagsFields b.id →
    (table.destination.primaryColumn = b.keyColumn ↔ b.BeginsKey)

/-! ## Primary keys without marks -/

theorem Model.primaryFields_unmarked (m : Model) :
    m.unmarked.primaryFields = m.primaryFields.map Field.unmarked := by
  rw [Model.primaryFields, Model.primaryFields, List.map_filterMap]
  apply List.filterMap_congr
  intro i _
  rw [Model.unmarked, List.getElem?_map]

theorem Model.keyColumn_unmarked (m : Model) : m.unmarked.keyColumn = m.keyColumn := by
  rw [keyColumn, keyColumn, primaryFields_unmarked, List.head?_map, Option.map_map]
  rfl

theorem Model.beginsKey_unmarked (m : Model) : m.unmarked.BeginsKey ↔ m.BeginsKey := by
  rw [BeginsKey, BeginsKey, primaryFields_unmarked, List.head?_map]
  cases m.primaryFields.head? with
  | none => simp
  | some x => simp [Field.IsOwn, Field.unmarked]

namespace Resolution

theorem Outcome.eq_related_of_relationship? {o : Outcome} {r : Relationship}
    (h : o.relationship? = some r) : o = .related r := by
  cases o with
  | related r' => rw [Option.some.inj h]
  | column scanner => contradiction
  | embedded => contradiction
  | unresolved foreignKey => contradiction

section

variable {s : Schema} {known : Model → Prop} {before : List Model} {opened : List ModelId}
  {f : Frame} {i k : Nat} {d : FieldDeclaration} {slot : Slot} {r : Relationship}

theorem Progress.target?_of_relationship? (h : Progress s known f k) (hi : i < k)
    (hd : (s.exported f.id)[i]? = some d) (hslot : f.slots[i]? = some slot)
    (hr : slot.field.relationship? = some r) : ∃ t, d.target? = some t := by
  have hincluded : d.annotation.isExcluded = false := by
    by_contra hexcluded
    rw [Bool.not_eq_false, ← (h.follows hd hslot).isIgnored] at hexcluded
    rw [(h.isFresh hslot (Or.inr hexcluded)).relationship] at hr
    contradiction
  obtain ⟨v, -, hshows⟩ := h.settled hi hd hincluded hslot
  rw [hshows.relationship] at hr
  obtain ⟨t, ht, -⟩ := related_of_find (Outcome.eq_related_of_relationship? hr)
  exact ⟨t, FieldDeclaration.target?_eq_some_iff.mpr ⟨hincluded, ht⟩⟩

/-- The relationship of a slot was found from what could be read of the model that the field holds. -/
theorem Sourced.related (h : Sourced s before opened f k) (hf : Progress s known f k) (hi : i < k)
    (hd : (s.exported f.id)[i]? = some d) (hslot : f.slots[i]? = some slot)
    (hr : slot.field.relationship? = some r) :
    ∃ t v, d.target? = some t ∧ Origin s before opened t v ∧
      Related (s.declaredSide f.id) ⟨t, s.name t, v⟩ (declaredFinding s f.id d v).marks r := by
  obtain ⟨t, ht⟩ := hf.target?_of_relationship? hi hd hslot hr
  obtain ⟨v, hv, hshows⟩ := h i d slot t hi hd hslot ht
  rw [hshows.relationship] at hr
  obtain ⟨u, hu, hrelated⟩ := related_of_find (Outcome.eq_related_of_relationship? hr)
  obtain rfl : t = u := (FieldDeclaration.target?_eq_some_iff.mp ht).2.unique hu
  exact ⟨t, v, ht, hv, hrelated⟩

end

end Resolution

namespace Registry

section

variable {s : Schema} {r : Registry} (hr : Occurs (r.scope s) ⟨{}, []⟩)

include hr

theorem primaryColumn_eq_iff {m : Model} (hm : m ∈ r.models) (hrec : s.isRecord m.id = true)
    (htags : s.TagsFields m.id) : s.primaryColumn m.id = m.keyColumn ↔ m.BeginsKey := by
  cases hr.traced.of_has hm with
  | @record f tableName hf hmade =>
    have hid : m.id = f.id := congrArg Model.id hmade
    rw [← m.keyColumn_unmarked, ← m.beginsKey_unmarked, hmade, Model.keyColumn_unmarked,
      Model.beginsKey_unmarked, hid]
    rw [hid] at htags
    exact hf.primaryColumn_eq_iff htags tableName
  | @blank id hblank hmade =>
    have hid : m.id = id := congrArg Model.id hmade
    have hnone : s.isRecord id = false := hblank
    rw [hid, hnone] at hrec
    contradiction

theorem connects_of_joins {i : Nat} {a : Model} (ha : r.models[i]? = some a)
    {opened : List ModelId}
    (hopened : ∀ t ∈ opened,
      s.Reaches t a.id ∧ t ∉ ((r.models.take i).map Model.unmarked).map (·.id))
    {t : ModelId} (href : s.Refers a.id t) {v : View}
    (hv : Origin s ((r.models.take i).map Model.unmarked) opened t v) {table : JoinTable}
    (hjoins : Joins (s.declaredSide a.id) ⟨t, s.name t, v⟩ table) :
    ∃ (j : Nat) (b : Model), r.models[j]? = some b ∧ b.id = t ∧ table.Connects s i a j b := by
  obtain ⟨⟨hsource, hsourceColumn⟩, hdestination, hdestinationColumn⟩ := hjoins
  have hown : s.TagsFields a.id → (table.source.primaryColumn = a.keyColumn ↔ a.BeginsKey) := by
    intro htags
    have hdeclared : (s.declaredSide a.id).view.primaryColumn = s.primaryColumn a.id :=
      primaryColumn_declaredView href.1
    rw [hsourceColumn, hdeclared]
    exact primaryColumn_eq_iff hr (List.mem_of_getElem? ha) href.1 htags
  obtain ⟨j, b, hb, hid, ⟨hlt, m, rfl, hbm⟩ | ⟨hge, hreach, g, k, hg, hgid, rfl⟩⟩ :=
    place_of_origin hr ha hopened href hv
  · refine ⟨j, b, hb, hid, hsource, hdestination.trans hid.symm, fun _ => hlt, hown, ?_,
      fun hge => absurd hlt (Nat.not_lt_of_le hge)⟩
    intro _
    rw [hdestinationColumn, ← b.keyColumn_unmarked, ← hbm, m.keyColumn_unmarked]
    exact primaryColumn_viewModel m
  · refine ⟨j, b, hb, hid, hsource, hdestination.trans hid.symm,
      fun hno => absurd (hid ▸ hreach) hno, hown, fun hlt => absurd hlt (Nat.not_lt_of_le hge), ?_⟩
    intro _ htags
    have hrec : s.isRecord b.id = true := by
      rw [hid, ← hgid]
      exact hg.isRecord
    have hdeclared : g.view.primaryColumn = s.primaryColumn b.id := by
      rw [hg.view_alike.primaryColumn, hgid, ← hid, primaryColumn_declaredView hrec]
    rw [hdestinationColumn]
    show g.view.primaryColumn = b.keyColumn ↔ b.BeginsKey
    rw [hdeclared]
    exact primaryColumn_eq_iff hr (List.mem_of_getElem? hb) hrec htags

end

/-- After any session, the table of a join that a stored model declares refers to the primary keys of both
models.  The column of a model that has ended is that of its key.  The column of one that is open, as the
owner is, is that of its key exactly if the key does not begin with a field taken over from an embedded
model, or begins with the column `id` all the same. -/
theorem connects_session (s : Schema) (c : Config) (qs : List Request) (i : Nat) (a : Model)
    (ha : (serveAll s { config := c } qs).models[i]? = some a) (x : Field) (hx : x ∈ a.fields)
    (hown : x.IsOwn) (rel : Relationship) (hrel : x.relationship? = some rel)
    (hkind : rel.kind = .manyToMany) :
    ∃ table j b, rel.joinTable? = some table ∧
      (serveAll s { config := c } qs).models[j]? = some b ∧ x.type.Holds b.id ∧
      table.Connects s i a j b := by
  have hoccurs := occurs_session s c qs
  generalize serveAll s { config := c } qs = r at ha hoccurs
  cases entry_of_getElem? hoccurs ha with
  | blank _ hblank => exact absurd hx (Model.not_mem_fields_of_unmarked hblank x)
  | @record f tableName opened hf hs hopened hmade =>
    have hid : a.id = f.id := congrArg Model.id hmade
    obtain ⟨k, d, slot, hd, hslot, -, hxslot⟩ := hf.slot_of_mem hmade hx hown
    have hslotrel : slot.field.relationship? = some rel := by
      show slot.field.unmarked.relationship? = some rel
      rw [← hxslot]
      exact hrel
    have hlt := (List.getElem?_eq_some_iff.mp hd).1
    obtain ⟨t, v, ht, hv, hrelated⟩ := hs.related hf hlt hd hslot hslotrel
    have href : s.Refers a.id t := by
      rw [hid]
      exact Schema.refers_of_target? hf.isRecord hd ht
    cases hrelated with
    | own hown' => rw [hown'] at hkind; contradiction
    | theirs htheirs =>
      rw [hkind] at htheirs
      rcases htheirs with h | h <;> contradiction
    | @joined table _ htable hjoins =>
      rw [← hid] at hjoins hopened
      obtain ⟨j, b, hb, hbid, hconnects⟩ := connects_of_joins hoccurs ha hopened href hv hjoins
      refine ⟨table, j, b, htable, hb, ?_, hconnects⟩
      have htype : x.type = d.type := by
        show x.unmarked.type = d.type
        rw [hxslot]
        exact (hf.follows hd hslot).type
      rw [htype, hbid]
      exact (FieldDeclaration.target?_eq_some_iff.mp ht).2

/-- Articles with tags.  Their key is that of an embedded model. -/
def articles : Schema :=
  { declarations :=
      [{ name := "Article"
         fields :=
          [{ name := "Base", type := .model 1, annotation := { mapping := "embedded" } },
           { name := "Tags", type := .sequence (.model 2)
             annotation := { mapping := "many2many" } }] },
       { name := "Base"
         fields :=
          [{ name := "Uuid", type := .scalar "String", annotation := { mapping := "primary_key" } }] },
       { name := "Tag"
         fields := [{ name := "Id", type := .scalar "i64" }] }] }

/-- The articles come behind the two other models, and their second field is the join. -/
theorem connects_session_articles :
    ∃ a, (serveAll articles {} [.get 0]).models[2]? = some a ∧
      ∃ x ∈ a.fields, x.IsOwn ∧ ∃ rel, x.relationship? = some rel ∧ rel.kind = .manyToMany ∧
        ∃ table j b, rel.joinTable? = some table ∧
          (serveAll articles {} [.get 0]).models[j]? = some b ∧ x.type.Holds b.id ∧
          table.Connects articles 2 a j b := by
  have hmodel : ((serveAll articles {} [.get 0]).models[2]?.bind fun a => a.fields[1]?.map fun x =>
      (x.path.length, x.relationship?.map (·.kind))) = some (1, some .manyToMany) := by
    decide +kernel
  obtain ⟨a, ha, hfield⟩ := Option.bind_eq_some_iff.mp hmodel
  obtain ⟨x, hx, heq⟩ := Option.map_eq_some_iff.mp hfield
  obtain ⟨hown, hrelated⟩ := Prod.mk.inj heq
  obtain ⟨rel, hrel, hkind⟩ := Option.map_eq_some_iff.mp hrelated
  have hmem := List.mem_of_getElem? hx
  exact ⟨a, ha, x, hmem, hown, rel, hrel, hkind,
    connects_session articles {} [.get 0] 2 a ha x hmem hown rel hrel hkind⟩

/-- The join table of articles refers to a column that they do not have. -/
theorem sourceColumn_ne_keyColumn_articles :
    ∃ a ∈ (serveAll articles {} [.get 0]).models, ∃ x ∈ a.fields, ∃ table,
      x.relationship?.bind (·.joinTable?) = some table ∧ table.source.model = a.id ∧
        table.source.primaryColumn = "id" ∧ a.keyColumn = "uuid" := by
  decide +kernel

end Registry
end RecordMapping
