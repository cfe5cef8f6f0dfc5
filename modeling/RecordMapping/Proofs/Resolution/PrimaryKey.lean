import RecordMapping.Proofs.Relationships

/-!
The primary key of a finished model.

A frame refers to the fields of its primary key by slots, since the places of the fields are known only
in the end.  The references lead to the fields that they were made for, except that an embedding which
was tagged itself has no place.  The key then begins with the column that the declaration gives, as long
as its first field is not taken over from an embedded model.
-/

namespace RecordMapping

open Resolution

/-- The column of the first field of the primary key, or `id` without one. -/
def Model.keyColumn (m : Model) : String := (m.primaryFields.head?.map (·.column)).getD "id"

/-- The primary key begins with a field that the model declares, or with the column `id`. -/
def Model.BeginsKey (m : Model) : Prop := ∀ x ∈ m.primaryFields.head?, x.IsOwn ∨ x.column = "id"

/-- No embedding is tagged as primary key. -/
def Schema.TagsFields (s : Schema) (id : ModelId) : Prop :=
  ∀ d ∈ s.exported id, s.Embeds d → (Field.ofDeclaration d).isPrimaryKey = false

namespace Resolution

theorem primaryColumn_viewModel (m : Model) : (viewModel m).primaryColumn = m.keyColumn :=
  View.primaryColumn_eq _

/-! ## Places -/

namespace Frame

/-- The field that a reference of the primary key leads to. -/
def keyField? (f : Frame) : PrimaryRef → Option Field
  | .direct i =>
    f.slots[i]?.bind fun slot => if slot.expansion?.isSome then none else some slot.field
  | .embedded i offset => f.slots[i]?.bind fun slot => slot.fields[offset]?

/-- What slot `i` contributes stands behind what the slots before it contribute. -/
theorem getElem?_fields_start {f : Frame} {i offset : Nat} {slot : Slot}
    (hslot : f.slots[i]? = some slot) (hlt : offset < slot.fields.length) :
    f.fields[f.start i + offset]? = slot.fields[offset]? := by
  obtain ⟨hi, rfl⟩ := List.getElem?_eq_some_iff.mp hslot
  have hfields : f.fields = (f.slots.take i).flatMap Slot.fields ++
      (f.slots[i].fields ++ (f.slots.drop (i + 1)).flatMap Slot.fields) := by
    rw [← List.flatMap_cons, ← List.drop_eq_getElem_cons hi, ← List.flatMap_append,
      List.take_append_drop, Frame.fields]
  rw [hfields, Frame.start, List.getElem?_append_right (Nat.le_add_right _ _),
    Nat.add_sub_cancel_left, List.getElem?_append_left hlt]

theorem length_slot_fields_mark {f : Frame} {i j : Nat} {slot : Slot}
    (hslot : f.slots[j]? = some slot) :
    ∃ slot', (f.mark i).slots[j]? = some slot' ∧ slot'.fields.length = slot.fields.length := by
  have hmarked : (f.mark i).slots[j]? =
      some (if i = j then slot.mapField Field.marked else slot) := by
    rw [mark, modifyField, List.getElem?_modify, hslot]
    rfl
  refine ⟨_, hmarked, ?_⟩
  split
  · rw [Slot.fields, Slot.fields]
    show (slot.expansion?.getD [slot.field.marked]).length = _
    cases slot.expansion? <;> rfl
  · rfl

end Frame

section

variable {s : Schema} {known : Model → Prop} {f : Frame} {k i offset : Nat} {slot : Slot}

/-- An embedded field of the primary key lies within what its slot contributes. -/
theorem Progress.offset_lt (h : Progress s known f k) (href : .embedded i offset ∈ f.primary) :
    i < k ∧ ∃ slot, f.slots[i]? = some slot ∧ offset < slot.fields.length := by
  induction h using Progress.induct with
  | start id hr =>
    rw [Frame.primary_ofDeclarations] at href
    obtain ⟨⟨x, j⟩, -, hx⟩ := List.mem_filterMap.mp href
    by_cases hkey : x.isPrimaryKey = true
    · simp [hkey] at hx
    · simp [hkey] at hx
  | mark f k j hf ih =>
    obtain ⟨hi, slot, hslot, hlt⟩ := ih href
    obtain ⟨slot', hslot', hlength⟩ := Frame.length_slot_fields_mark (i := j) hslot
    exact ⟨hi, slot', hslot', by omega⟩
  | settle f k d v hf hd hv ih =>
    -- A reference that was there leads to another slot, as the slot that is settled was fresh.
    have hkeep : .embedded i offset ∈ f.primary →
        i < k + 1 ∧ ∃ slot, (f.settle s k v).slots[i]? = some slot ∧
          offset < slot.fields.length := by
      intro href
      obtain ⟨hi, slot, hslot, hlt⟩ := ih href
      refine ⟨by omega, slot, ?_, hlt⟩
      rw [Frame.slots_settle_of_ne s f v (by omega)]
      exact hslot
    obtain ⟨slot, hslot, -⟩ := hf.exists_slot hd
    cases hignored : slot.field.isIgnored with
    | true =>
      rw [Frame.slots_settle_of_ignored s v hslot hignored] at href
      exact hkeep href
    | false =>
      have hsettle := Frame.settle_of_not_ignored s v hslot hignored
      rw [hsettle, Frame.primary_conclude] at href
      cases ho : (f.finding s slot v).outcome with
      | column scanner =>
        rw [ho] at href
        by_cases hfirst : (f.primary.isEmpty && f.slots[k]?.any (·.field.column == "id")) = true
        · simp [hfirst] at href
        · simp only [hfirst] at href
          exact hkeep href
      | related r => rw [ho] at href; exact hkeep href
      | unresolved foreignKey => rw [ho] at href; exact hkeep href
      | embedded =>
        rw [ho] at href
        rcases List.mem_append.mp href with href | href
        · exact hkeep href
        · obtain ⟨⟨x, j⟩, hxj, hx⟩ := List.mem_filterMap.mp href
          by_cases hkey : x.isPrimaryKey = true
          · simp only [hkey, if_true] at hx
            obtain ⟨rfl, rfl⟩ := PrimaryRef.embedded.inj (Option.some.inj hx)
            have hlt := (List.getElem?_eq_some_iff.mp (List.mem_zipIdx_iff_getElem?.mp hxj)).1
            have hslot' : (f.settle s k v).slots[k]? =
                some { slot with expansion? := some (v.fields.map (·.within slot.field.name)) } := by
              rw [hsettle, Frame.slots_conclude, List.getElem?_modify_eq, hslot, ho]
              rfl
            refine ⟨Nat.lt_succ_self k, _, hslot', ?_⟩
            rw [Slot.fields, Option.getD_some, List.length_map]
            exact hlt
          · simp [hkey] at hx

/-- The primary key of the finished model has the fields that the references lead to. -/
theorem Progress.primaryFields_toModel (h : Progress s known f k) (tableName : String) :
    (f.toModel tableName).primaryFields = f.primary.filterMap f.keyField? := by
  show (f.primary.filterMap f.place?).filterMap (f.fields[·]?) = _
  rw [List.filterMap_filterMap]
  apply List.filterMap_congr
  intro ref href
  cases ref with
  | direct i =>
    rw [Frame.place?, Frame.keyField?]
    cases hslot : f.slots[i]? with
    | none => simp
    | some slot =>
      cases hexpansion : slot.expansion? with
      | some fields => simp [hexpansion]
      | none =>
        have hfields : slot.fields = [slot.field] := by rw [Slot.fields, hexpansion]; rfl
        have hplace : f.fields[f.start i + 0]? = slot.fields[0]? :=
          Frame.getElem?_fields_start hslot (by simp [hfields])
        simpa [hexpansion, hfields] using hplace
  | embedded i offset =>
    obtain ⟨-, slot, hslot, hlt⟩ := h.offset_lt href
    rw [Frame.place?, Frame.keyField?, hslot]
    exact Frame.getElem?_fields_start hslot hlt

/-! ## The first field -/

theorem mem_tagged {id : ModelId} {ref : PrimaryRef} (h : ref ∈ s.tagged id) :
    ∃ i d, ref = .direct i ∧ (s.exported id)[i]? = some d ∧
      (Field.ofDeclaration d).isPrimaryKey = true := by
  rw [Schema.tagged, Frame.primary_ofDeclarations] at h
  obtain ⟨⟨x, i⟩, hxi, hx⟩ := List.mem_filterMap.mp h
  by_cases hkey : x.isPrimaryKey = true
  · simp only [hkey, if_true] at hx
    have hslot := List.mem_zipIdx_iff_getElem?.mp hxi
    rw [List.getElem?_map, Option.map_eq_some_iff] at hslot
    obtain ⟨d, hd, rfl⟩ := hslot
    exact ⟨i, d, (Option.some.inj hx).symm, hd, hkey⟩
  · simp [hkey] at hx

theorem Progress.keyField?_of_tagged (h : Progress s known f k) (htags : s.TagsFields f.id)
    {ref : PrimaryRef} (href : ref ∈ s.tagged f.id) :
    ∃ x, f.keyField? ref = some x ∧ x.IsOwn ∧ declaredColumn s f.id ref = some x.column := by
  obtain ⟨i, d, rfl, hd, hkey⟩ := mem_tagged href
  obtain ⟨slot, hslot, hfollows⟩ := h.exists_slot hd
  have hexpansion : slot.expansion? = none := by
    by_contra hne
    have hembeds := h.embeds_of_expansion hd hslot hne
    rw [htags d (List.mem_of_getElem? hd) hembeds] at hkey
    contradiction
  refine ⟨slot.field, ?_, hfollows.isOwn, ?_⟩
  · rw [Frame.keyField?, hslot]
    simp [hexpansion]
  · rw [declaredColumn, hd, hfollows.column]
    rfl

/-- A field of the primary key that was found is the column `id`, or is taken over. -/
theorem Progress.column_of_found (h : Progress s known f (s.exported f.id).length)
    {ref : PrimaryRef} (href : MayBeFound s f.id ref) {x : Field} (hx : f.keyField? ref = some x)
    (hown : x.IsOwn) : x.column = "id" := by
  cases ref with
  | direct i =>
    obtain ⟨-, d, hd, hid⟩ := href
    obtain ⟨slot, hslot, hfollows⟩ := h.exists_slot hd
    rw [Frame.keyField?, hslot, Option.bind_some] at hx
    split at hx
    · contradiction
    · rw [← Option.some.inj hx]
      exact hfollows.column.trans hid
  | embedded i offset =>
    obtain ⟨d, hd, hembeds⟩ := href
    obtain ⟨slot, hslot, -⟩ := h.exists_slot hd
    rw [Frame.keyField?, hslot, Option.bind_some] at hx
    have hlt : i < (s.exported f.id).length := (List.getElem?_eq_some_iff.mp hd).1
    obtain ⟨rest, hrest, hpath⟩ :=
      (h.fields_of_embeds hlt hd hslot rfl hembeds).2 x (List.mem_of_getElem? hx)
    rw [Field.IsOwn, hpath, List.length_cons] at hown
    exact absurd (List.eq_nil_of_length_eq_zero (by omega)) hrest

/-- The key's first column is the declared one exactly if the key begins with a field of the model's own,
or with the column `id`. -/
theorem Progress.primaryColumn_eq_iff (h : Progress s known f (s.exported f.id).length)
    (htags : s.TagsFields f.id) (tableName : String) :
    s.primaryColumn f.id = (f.toModel tableName).keyColumn ↔ (f.toModel tableName).BeginsKey := by
  obtain ⟨found, hprimary, hfound⟩ := h.primary
  have hdeclared : s.primaryColumn f.id =
      ((s.tagged f.id).filterMap (declaredColumn s f.id)).head?.getD "id" := by
    rw [filterMap_declaredColumn, List.head?_map, List.head?_filter, Schema.primaryColumn]
  rw [Model.keyColumn, Model.BeginsKey, h.primaryFields_toModel, hprimary, List.filterMap_append,
    hdeclared]
  cases htagged : s.tagged f.id with
  | cons ref refs =>
    -- The key begins with the first field that is tagged.
    obtain ⟨x, hx, hown, hcolumn⟩ := h.keyField?_of_tagged htags (htagged ▸ List.mem_cons_self)
    simp [hx, hcolumn, hown]
  | nil =>
    cases hhead : (found.filterMap f.keyField?).head? with
    | none => simp [hhead]
    | some x =>
      obtain ⟨ref, href, hx⟩ := List.mem_filterMap.mp (List.mem_of_mem_head? hhead)
      have hcolumn := h.column_of_found (hfound ref href) hx
      simp only [List.filterMap_nil, List.nil_append, hhead, List.head?_nil, Option.getD_none,
        Option.map_some, Option.getD_some, Option.mem_def, Option.some.injEq, forall_eq']
      constructor
      · intro hid
        exact Or.inr hid.symm
      · rintro (hown | hid)
        · exact (hcolumn hown).symm
        · exact hid.symm

end

end Resolution
end RecordMapping
