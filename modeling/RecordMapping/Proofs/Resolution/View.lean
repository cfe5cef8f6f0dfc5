import RecordMapping.Proofs.Marks
import RecordMapping.Proofs.Resolution.Step

/-!
What a finding depends on.

Of a model, a finding sees the names and columns of the fields, the column that a join table refers
to, and whether the model is a record.  Views that agree on these are alike, and no finding tells
them apart.  In particular no mark changes a finding.
-/

namespace RecordMapping
namespace Resolution

/-! ## Views that are alike -/

namespace View

structure Alike (v w : View) : Prop where
  keyRefs : v.fields.map Field.keyRef = w.fields.map Field.keyRef
  isRecord : v.isRecord = w.isRecord
  primaryColumn : v.primaryColumn = w.primaryColumn

theorem Alike.refl (v : View) : v.Alike v := ⟨rfl, rfl, rfl⟩

theorem Alike.symm {v w : View} (h : v.Alike w) : w.Alike v :=
  ⟨h.keyRefs.symm, h.isRecord.symm, h.primaryColumn.symm⟩

theorem Alike.trans {v w x : View} (h : v.Alike w) (h' : w.Alike x) : v.Alike x :=
  ⟨h.keyRefs.trans h'.keyRefs, h.isRecord.trans h'.isRecord,
    h.primaryColumn.trans h'.primaryColumn⟩

theorem locate?_eq (v : View) (key : String) :
    v.locate? key =
      ((v.fields.map Field.keyRef).zipIdx.find? fun (k, _) =>
        k.field == key || k.column == Naming.columnName key).map fun (k, i) => ⟨i, k⟩ := by
  rw [locate?, List.zipIdx_map, List.find?_map, Option.map_map]
  rfl

theorem Alike.locate? {v w : View} (h : v.Alike w) (key : String) :
    v.locate? key = w.locate? key := by rw [locate?_eq, locate?_eq, h.keyRefs]

theorem getElem?_of_locate? {v : View} {name : String} {found : Located}
    (h : v.locate? name = some found) :
    ∃ x, v.fields[found.index]? = some x ∧ x.keyRef = found.ref := by
  rw [locate?, Option.map_eq_some_iff] at h
  obtain ⟨⟨x, i⟩, hfind, rfl⟩ := h
  exact ⟨x, List.mem_zipIdx_iff_getElem?.mp (List.mem_of_find?_eq_some hfind), rfl⟩

end View

namespace Side

/-- Two sides that no finding tells apart. -/
structure Alike (a b : Side) : Prop where
  id : a.id = b.id
  name : a.name = b.name
  view : a.view.Alike b.view

theorem Alike.refl (a : Side) : a.Alike a := ⟨rfl, rfl, View.Alike.refl a.view⟩

end Side

/-! ## Findings from views that are alike -/

section

variable {owner owner' target target' : Side}

theorem polymorphicPair?_congr (ht : target.Alike target') (settings : Settings) :
    polymorphicPair? target settings = polymorphicPair? target' settings := by
  simp only [polymorphicPair?, ht.view.locate?]

theorem start_congr (ht : target.Alike target') (kind : Relationship.Kind) (settings : Settings) :
    start kind target settings = start kind target' settings := by
  simp only [start, polymorphicPair?_congr ht, ht.id]

theorem heldByTarget_congr (ht : target.Alike target') (kind : Relationship.Kind)
    (settings : Settings) (foreignKey : String) :
    heldByTarget kind target settings foreignKey =
      heldByTarget kind target' settings foreignKey := by
  simp only [heldByTarget, start_congr ht, ht.view.locate?, ht.id]

theorem heldByJoinTable_congr (ho : owner.Alike owner') (ht : target.Alike target')
    (settings : Settings) (foreignKey setting : String) :
    heldByJoinTable owner target settings foreignKey setting =
      heldByJoinTable owner' target' settings foreignKey setting := by
  simp only [heldByJoinTable, start_congr ht, ho.id, ho.name, ho.view.primaryColumn, ht.id, ht.name,
    ht.view.primaryColumn]

/-- Of the field, a finding sees the name, the type and the settings. -/
theorem find_congr {side side' : ModelId → Side} {f g : Field} (ho : owner.Alike owner')
    (hs : ∀ t, f.type.associated? = some t → (side t).Alike (side' t)) (hname : f.name = g.name)
    (htype : f.type = g.type) (hsettings : f.settings = g.settings) (anonymous : Bool) :
    find owner side f anonymous = find owner' side' g anonymous := by
  unfold find
  rw [← htype]
  cases hrole : f.type.role with
  | column scanner => rfl
  | one t =>
    have ht := hs t (by simp [FieldType.associated?, hrole, FieldType.Role.target?])
    simp only [findOne, start_congr ht, heldByTarget_congr ht, ho.view.locate?, ho.id, ho.name,
      ht.view.isRecord, hname, hsettings]
  | many t =>
    have ht := hs t (by simp [FieldType.associated?, hrole, FieldType.Role.target?])
    simp only [findMany, heldByJoinTable_congr ho ht, heldByTarget_congr ht, ho.name,
      ht.view.isRecord, hsettings]

end

/-! ## Outcomes -/

theorem start_of_none {target : Side} {settings : Settings}
    (h : polymorphicPair? target settings = none) (kind : Relationship.Kind) :
    start kind target settings = ({ kind }, []) := by simp only [start, h]

theorem start_of_some {target : Side} {settings : Settings} {id type : Located}
    (h : polymorphicPair? target settings = some (id, type)) (kind : Relationship.Kind) :
    start kind target settings =
      ({ kind, foreignKey := id.ref, polymorphicType? := some type.ref },
        [⟨target.id, type.index⟩, ⟨target.id, id.index⟩]) := by simp only [start, h]

theorem heldByTarget_of_some {kind : Relationship.Kind} {target : Side} {settings : Settings}
    {foreignKey : String} {found : Located} (h : target.view.locate? foreignKey = some found) :
    heldByTarget kind target settings foreignKey =
      { outcome := .related ((start kind target settings).1.withForeignKey found.ref)
        marks := (start kind target settings).2 ++ [⟨target.id, found.index⟩] } := by
  simp only [heldByTarget, h]

theorem heldByTarget_of_none {kind : Relationship.Kind} {target : Side} {settings : Settings}
    {foreignKey : String} (h : target.view.locate? foreignKey = none) :
    heldByTarget kind target settings foreignKey =
      { outcome := if (start kind target settings).1.hasForeignKey = true then
          .related (start kind target settings).1 else .unresolved foreignKey
        marks := (start kind target settings).2 } := by
  simp only [heldByTarget, h]
  split <;> rfl

section

variable {owner target : Side} {field : Field}

theorem findOne_embeds (owner target : Side) (field : Field) :
    findOne owner target field true =
      { outcome := .embedded, marks := (start .belongsTo target field.settings).2 } := by
  simp [findOne]

theorem findOne_of_some {found : Located}
    (h : owner.view.locate? ((field.settings.nonEmpty? "FOREIGNKEY").getD (field.name ++ "Id")) =
      some found) :
    findOne owner target field false =
      { outcome := .related ((start .belongsTo target field.settings).1.withForeignKey found.ref)
        marks := (start .belongsTo target field.settings).2 ++ [⟨owner.id, found.index⟩] } := by
  simp [findOne, h]

theorem findOne_of_none
    (h : owner.view.locate? ((field.settings.nonEmpty? "FOREIGNKEY").getD (field.name ++ "Id")) =
      none) :
    findOne owner target field false =
      heldByTarget .hasOne target field.settings
        ((field.settings.nonEmpty? "FOREIGNKEY").getD (owner.name ++ "Id")) := by
  simp [findOne, h]

theorem findMany_of_some {setting : String} (h : field.settings.get? "MANY2MANY" = some setting) :
    findMany owner target field =
      heldByJoinTable owner target field.settings
        ((field.settings.nonEmpty? "FOREIGNKEY").getD (owner.name ++ "Id")) setting := by
  simp [findMany, h]

theorem findMany_of_none (h : field.settings.get? "MANY2MANY" = none) :
    findMany owner target field =
      heldByTarget .hasMany target field.settings
        ((field.settings.nonEmpty? "FOREIGNKEY").getD (owner.name ++ "Id")) := by
  simp [findMany, h]

theorem find_one {side : ModelId → Side} {t : ModelId} (hrole : field.type.role = .one t)
    (hrecord : (side t).view.isRecord = true) (anonymous : Bool) :
    find owner side field anonymous =
      findOne owner (side t) field (field.settings.contains "EMBEDDED" || anonymous) := by
  simp [find, hrole, hrecord]

theorem find_of_not_record {side : ModelId → Side} {t : ModelId}
    (ht : field.type.associated? = some t) (hrecord : (side t).view.isRecord = false)
    (anonymous : Bool) : find owner side field anonymous = { outcome := .column false } := by
  unfold find
  cases hrole : field.type.role with
  | column scanner => simp [FieldType.associated?, hrole, FieldType.Role.target?] at ht
  | one u =>
    obtain rfl : u = t := by simpa [FieldType.associated?, hrole, FieldType.Role.target?] using ht
    simp [hrecord]
  | many u =>
    obtain rfl : u = t := by simpa [FieldType.associated?, hrole, FieldType.Role.target?] using ht
    simp [hrecord]

theorem marks_find_of_none {side : ModelId → Side} (h : field.type.associated? = none)
    (anonymous : Bool) : (find owner side field anonymous).marks = [] := by
  cases hrole : field.type.role with
  | column scanner => simp only [find, hrole]
  | one t => simp [FieldType.associated?, hrole, FieldType.Role.target?] at h
  | many t => simp [FieldType.associated?, hrole, FieldType.Role.target?] at h

theorem find_many {side : ModelId → Side} {t : ModelId} (hrole : field.type.role = .many t)
    (hrecord : (side t).view.isRecord = true) (anonymous : Bool) :
    find owner side field anonymous = findMany owner (side t) field := by
  simp [find, hrole, hrecord]

/-- A field makes a column, or it holds records of a target. -/
theorem find_cases (owner : Side) (side : ModelId → Side) (field : Field) (anonymous : Bool) :
    (∃ scanner, find owner side field anonymous = { outcome := .column scanner }) ∧
        (∀ t, field.type.associated? = some t → (side t).view.isRecord = false) ∨
      ∃ t, field.type.associated? = some t ∧ (side t).view.isRecord = true ∧
        ((∃ embeds, find owner side field anonymous = findOne owner (side t) field embeds) ∨
          find owner side field anonymous = findMany owner (side t) field) := by
  cases hassociated : field.type.associated? with
  | none =>
    refine Or.inl ⟨?_, by simp⟩
    cases hrole : field.type.role with
    | column scanner => exact ⟨scanner, by simp only [find, hrole]⟩
    | one t => simp [FieldType.associated?, hrole, FieldType.Role.target?] at hassociated
    | many t => simp [FieldType.associated?, hrole, FieldType.Role.target?] at hassociated
  | some t =>
    cases hrecord : (side t).view.isRecord with
    | false =>
      refine Or.inl ⟨⟨false, find_of_not_record hassociated hrecord anonymous⟩, ?_⟩
      intro u hu
      rw [← Option.some.inj hu, hrecord]
    | true =>
      refine Or.inr ⟨t, rfl, hrecord, ?_⟩
      cases hrole : field.type.role with
      | column scanner => simp [FieldType.associated?, hrole, FieldType.Role.target?] at hassociated
      | one u =>
        obtain rfl : u = t := by
          simpa [FieldType.associated?, hrole, FieldType.Role.target?] using hassociated
        exact Or.inl ⟨_, find_one hrole hrecord anonymous⟩
      | many u =>
        obtain rfl : u = t := by
          simpa [FieldType.associated?, hrole, FieldType.Role.target?] using hassociated
        exact Or.inr (find_many hrole hrecord anonymous)

end

theorem heldByTarget_outcome (kind : Relationship.Kind) (target : Side) (settings : Settings)
    (foreignKey : String) :
    (∃ r, (heldByTarget kind target settings foreignKey).outcome = .related r) ∨
      (heldByTarget kind target settings foreignKey).outcome = .unresolved foreignKey := by
  cases h : target.view.locate? foreignKey with
  | some found =>
    rw [heldByTarget_of_some h]
    exact Or.inl ⟨_, rfl⟩
  | none =>
    rw [heldByTarget_of_none h]
    by_cases hkey : (start kind target settings).1.hasForeignKey = true
    · exact Or.inl ⟨_, if_pos hkey⟩
    · exact Or.inr (if_neg hkey)

/-- Only a field that holds one record is embedded, and only if it says so. -/
theorem find_outcome_eq_embedded_iff {owner : Side} {side : ModelId → Side} {f : Field}
    {anonymous : Bool} :
    (find owner side f anonymous).outcome = .embedded ↔
      ∃ t, f.type.role = .one t ∧ (side t).view.isRecord = true ∧
        (f.settings.contains "EMBEDDED" || anonymous) = true := by
  have hheld : ∀ kind target settings foreignKey,
      (heldByTarget kind target settings foreignKey).outcome ≠ .embedded := by
    intro kind target settings foreignKey h
    rcases heldByTarget_outcome kind target settings foreignKey with ⟨r, hr⟩ | hr
    · rw [h] at hr
      contradiction
    · rw [h] at hr
      contradiction
  unfold find
  cases hrole : f.type.role with
  | column scanner => simp
  | one t =>
    by_cases hrecord : (side t).view.isRecord = true
    · by_cases hembeds : (f.settings.contains "EMBEDDED" || anonymous) = true
      · simp [findOne, hrecord, hembeds]
      · simp only [findOne, hrecord, hembeds, if_true]
        constructor
        · intro h
          rw [if_neg Bool.false_ne_true] at h
          split at h
          · contradiction
          · exact absurd h (hheld _ _ _ _)
        · rintro ⟨t', -, -, h⟩
          exact absurd h Bool.false_ne_true
    · simp only [hrecord]
      constructor
      · intro h
        contradiction
      · rintro ⟨t', ht', hrecord', -⟩
        obtain rfl : t = t' := FieldType.Role.one.inj ht'
        exact absurd hrecord' hrecord
  | many t =>
    constructor
    · intro h
      simp only at h
      split at h
      · unfold findMany at h
        split at h
        · contradiction
        · exact absurd h (hheld _ _ _ _)
      · contradiction
    · rintro ⟨t', ht', -⟩
      contradiction

theorem unresolved_of_heldByTarget {kind : Relationship.Kind} {target : Side} {settings : Settings}
    {foreignKey key : String}
    (h : (heldByTarget kind target settings foreignKey).outcome = .unresolved key) :
    key = foreignKey := by
  rcases heldByTarget_outcome kind target settings foreignKey with ⟨r, hr⟩ | hr
  · rw [hr] at h
    contradiction
  · rw [hr] at h
    exact (Outcome.unresolved.inj h).symm

/-- The key that is missing in the end is the one that the target should have had. -/
theorem unresolved_of_find {owner : Side} {side : ModelId → Side} {f : Field} {anonymous : Bool}
    {key : String} (h : (find owner side f anonymous).outcome = .unresolved key) :
    key = (f.settings.nonEmpty? "FOREIGNKEY").getD (owner.name ++ "Id") := by
  unfold find at h
  split at h
  · contradiction
  · simp only at h
    split at h
    · simp only [findOne] at h
      split at h
      · contradiction
      · split at h
        · contradiction
        · exact unresolved_of_heldByTarget h
    · contradiction
  · simp only at h
    split at h
    · simp only [findMany] at h
      split at h
      · contradiction
      · exact unresolved_of_heldByTarget h
    · contradiction

/-! ## Marks -/

/-- The mark is on a field that can be read. -/
structure Side.Has (side : Side) (m : Mark) : Prop where
  model : m.model = side.id
  field : m.field < side.view.fields.length

section

variable {owner target : Side} {field : Field} {m : Mark}

theorem Side.has_of_locate? {name : String} {found : Located}
    (h : target.view.locate? name = some found) : target.Has ⟨target.id, found.index⟩ := by
  obtain ⟨x, hx, -⟩ := View.getElem?_of_locate? h
  exact ⟨rfl, (List.getElem?_eq_some_iff.mp hx).1⟩

theorem has_of_mem_start {kind : Relationship.Kind} {settings : Settings}
    (h : m ∈ (start kind target settings).2) : target.Has m := by
  cases hpair : polymorphicPair? target settings with
  | none =>
    rw [start_of_none hpair] at h
    exact absurd h List.not_mem_nil
  | some pair =>
    obtain ⟨id, type⟩ := pair
    rw [start_of_some hpair] at h
    simp only [polymorphicPair?, Option.bind_eq_bind, Option.bind_eq_some_iff] at hpair
    obtain ⟨name, -, id', hid, type', htype, heq⟩ := hpair
    obtain ⟨rfl, rfl⟩ := Prod.mk.inj (Option.some.inj heq)
    rcases List.mem_cons.mp h with rfl | h
    · exact Side.has_of_locate? htype
    · rw [List.mem_singleton.mp h]
      exact Side.has_of_locate? hid

theorem has_of_mem_heldByTarget {kind : Relationship.Kind} {settings : Settings}
    {foreignKey : String} (h : m ∈ (heldByTarget kind target settings foreignKey).marks) :
    target.Has m := by
  cases hlocate : target.view.locate? foreignKey with
  | some found =>
    rw [heldByTarget_of_some hlocate] at h
    rcases List.mem_append.mp h with h | h
    · exact has_of_mem_start h
    · rw [List.mem_singleton.mp h]
      exact Side.has_of_locate? hlocate
  | none =>
    rw [heldByTarget_of_none hlocate] at h
    exact has_of_mem_start h

theorem has_of_mem_findOne {embeds : Bool} (h : m ∈ (findOne owner target field embeds).marks) :
    owner.Has m ∨ target.Has m := by
  cases embeds with
  | true =>
    rw [findOne_embeds] at h
    exact Or.inr (has_of_mem_start h)
  | false =>
    cases hlocate : owner.view.locate?
        ((field.settings.nonEmpty? "FOREIGNKEY").getD (field.name ++ "Id")) with
    | some found =>
      rw [findOne_of_some hlocate] at h
      rcases List.mem_append.mp h with h | h
      · exact Or.inr (has_of_mem_start h)
      · rw [List.mem_singleton.mp h]
        exact Or.inl (Side.has_of_locate? hlocate)
    | none =>
      rw [findOne_of_none hlocate] at h
      exact Or.inr (has_of_mem_heldByTarget h)

theorem has_of_mem_findMany (h : m ∈ (findMany owner target field).marks) : target.Has m := by
  cases hsetting : field.settings.get? "MANY2MANY" with
  | some setting =>
    rw [findMany_of_some hsetting] at h
    exact has_of_mem_start h
  | none =>
    rw [findMany_of_none hsetting] at h
    exact has_of_mem_heldByTarget h

/-- A finding marks fields of the owner and of the target, which it has read. -/
theorem has_of_mem_find {side : ModelId → Side} {anonymous : Bool}
    (h : m ∈ (find owner side field anonymous).marks) :
    owner.Has m ∨ ∃ t, field.type.associated? = some t ∧ (side t).Has m := by
  rcases find_cases owner side field anonymous with
    ⟨⟨scanner, hfind⟩, -⟩ | ⟨t, ht, -, ⟨embeds, hfind⟩ | hfind⟩
  · rw [hfind] at h
    exact absurd h List.not_mem_nil
  · rw [hfind] at h
    exact (has_of_mem_findOne h).imp_right fun hm => ⟨t, ht, hm⟩
  · rw [hfind] at h
    exact Or.inr ⟨t, ht, has_of_mem_findMany h⟩

end

/-- What is marked outside the target does not depend on what can be read of the target. -/
theorem mem_marks_find_congr {owner : Side} {side side' : ModelId → Side} {f : Field} {m : Mark}
    (hs : ∀ t, f.type.associated? = some t →
      (side t).view.isRecord = (side' t).view.isRecord ∧ m.model ≠ (side t).id ∧
        m.model ≠ (side' t).id) (anonymous : Bool) :
    m ∈ (find owner side f anonymous).marks ↔ m ∈ (find owner side' f anonymous).marks := by
  cases hrole : f.type.role with
  | column scanner => simp only [find, hrole]
  | one t =>
    have ht : f.type.associated? = some t := by
      simp [FieldType.associated?, hrole, FieldType.Role.target?]
    obtain ⟨hrecord, hne, hne'⟩ := hs t ht
    cases hr : (side t).view.isRecord with
    | false => rw [find_of_not_record ht hr, find_of_not_record ht (hrecord ▸ hr)]
    | true =>
      rw [find_one hrole hr, find_one hrole (hrecord ▸ hr)]
      cases f.settings.contains "EMBEDDED" || anonymous with
      | true =>
        rw [findOne_embeds, findOne_embeds]
        exact iff_of_false (fun h => hne (has_of_mem_start h).model)
          (fun h => hne' (has_of_mem_start h).model)
      | false =>
        cases hlocate : owner.view.locate?
            ((f.settings.nonEmpty? "FOREIGNKEY").getD (f.name ++ "Id")) with
        | some found =>
          rw [findOne_of_some hlocate, findOne_of_some hlocate, List.mem_append, List.mem_append]
          exact or_congr_left (iff_of_false (fun h => hne (has_of_mem_start h).model)
            (fun h => hne' (has_of_mem_start h).model))
        | none =>
          rw [findOne_of_none hlocate, findOne_of_none hlocate]
          exact iff_of_false (fun h => hne (has_of_mem_heldByTarget h).model)
            (fun h => hne' (has_of_mem_heldByTarget h).model)
  | many t =>
    have ht : f.type.associated? = some t := by
      simp [FieldType.associated?, hrole, FieldType.Role.target?]
    obtain ⟨hrecord, hne, hne'⟩ := hs t ht
    cases hr : (side t).view.isRecord with
    | false => rw [find_of_not_record ht hr, find_of_not_record ht (hrecord ▸ hr)]
    | true =>
      rw [find_many hrole hr, find_many hrole (hrecord ▸ hr)]
      exact iff_of_false (fun h => hne (has_of_mem_findMany h).model)
        (fun h => hne' (has_of_mem_findMany h).model)

/-! ## Marks go unseen -/

/-- The key's column, or `id`: a field that is looked for as a substitute has this column. -/
theorem View.primaryColumn_eq (v : View) :
    v.primaryColumn = (v.key?.map (·.column)).getD "id" := by
  unfold View.primaryColumn
  cases v.key? with
  | some x => rfl
  | none =>
    cases hfind : v.fields.find? (·.column == "id") with
    | none => rfl
    | some x => simpa using List.find?_some hfind

theorem viewModel_unmarked_alike (m : Model) : (viewModel m.unmarked).Alike (viewModel m) := by
  have hkeyRefs : m.unmarked.fields.map Field.keyRef = m.fields.map Field.keyRef := by
    rw [Model.unmarked, List.map_map]
    rfl
  refine ⟨hkeyRefs, rfl, ?_⟩
  have hprimary : m.unmarked.primaryFields.map (·.column) = m.primaryFields.map (·.column) := by
    simp only [Model.primaryFields, List.map_filterMap]
    apply List.filterMap_congr
    intro j _
    rw [Model.unmarked, List.getElem?_map, Option.map_map]
    rfl
  rw [View.primaryColumn_eq, View.primaryColumn_eq]
  show (m.unmarked.primaryFields.head?.map (·.column)).getD "id" =
    (m.primaryFields.head?.map (·.column)).getD "id"
  rw [← List.head?_map, ← List.head?_map, hprimary]

theorem viewModel_alike {m n : Model} (h : m.unmarked = n.unmarked) :
    (viewModel m).Alike (viewModel n) := by
  have hm := (viewModel_unmarked_alike m).symm
  rw [h] at hm
  exact hm.trans (viewModel_unmarked_alike n)

end Resolution
end RecordMapping
