import RecordMapping.Proofs.Resolution.Progress

/-!
What the slots of a frame say.

Every slot belongs to a declaration and keeps its name, column and settings.  A settled one shows what
was found for it, any other one is as it was in the beginning.  The primary key begins with the fields
that are tagged, so that a frame looks to others as its declaration does.
-/

namespace RecordMapping
namespace Resolution

/-! ## Single slots -/

def Outcome.isColumn : Outcome → Bool
  | .column _ => true
  | _ => false

def Outcome.relationship? : Outcome → Option Relationship
  | .related r => some r
  | _ => none

namespace Slot

/-- Nothing has been found for the slot. -/
structure IsFresh (slot : Slot) : Prop where
  isStored : slot.field.isStored = false
  relationship : slot.field.relationship? = none
  expansion : slot.expansion? = none

/-- The slot shows what was found for it. -/
structure Shows (fields : List Field) (o : Outcome) (slot : Slot) : Prop where
  isStored : slot.field.isStored = o.isColumn
  relationship : slot.field.relationship? = o.relationship?
  expansion : slot.expansion? =
    if o = .embedded then some (fields.map (·.within slot.field.name)) else none

theorem IsFresh.ofDeclaration (d : FieldDeclaration) : (Slot.ofDeclaration d).IsFresh :=
  ⟨rfl, rfl, rfl⟩

theorem IsFresh.marked {slot : Slot} (h : slot.IsFresh) : (slot.mapField Field.marked).IsFresh :=
  ⟨h.isStored, h.relationship, h.expansion⟩

theorem Shows.marked {fields : List Field} {o : Outcome} {slot : Slot} (h : slot.Shows fields o) :
    (slot.mapField Field.marked).Shows fields o :=
  ⟨h.isStored, h.relationship, h.expansion⟩

theorem IsFresh.shows {slot : Slot} (h : slot.IsFresh) (first : Bool) (fields : List Field)
    (o : Outcome) : (slot.conclude first fields o).Shows fields o := by
  cases o with
  | column scanner => exact ⟨rfl, h.relationship, h.expansion⟩
  | related r => exact ⟨h.isStored, rfl, h.expansion⟩
  | unresolved foreignKey => exact ⟨h.isStored, h.relationship, h.expansion⟩
  | embedded => exact ⟨h.isStored, h.relationship, rfl⟩

theorem isIgnored_conclude (slot : Slot) (first : Bool) (fields : List Field) (o : Outcome) :
    (slot.conclude first fields o).field.isIgnored = slot.field.isIgnored := by cases o <;> rfl

end Slot

namespace Frame

theorem slots_ofDeclarations_inv {id : ModelId} {ds : List FieldDeclaration} {i : Nat}
    {d : FieldDeclaration} {slot : Slot} (hd : ds[i]? = some d)
    (h : (ofDeclarations id ds).slots[i]? = some slot) : slot = .ofDeclaration d := by
  have hslots : (ofDeclarations id ds).slots[i]? = ds[i]?.map Slot.ofDeclaration :=
    List.getElem?_map
  rw [hslots, hd] at h
  exact (Option.some.inj h).symm

theorem slots_mark_inv {f : Frame} {i j : Nat} {slot' : Slot}
    (h : (f.mark i).slots[j]? = some slot') :
    ∃ slot, f.slots[j]? = some slot ∧ (slot' = slot ∨ slot' = slot.mapField Field.marked) := by
  rw [mark, modifyField, List.getElem?_modify, Option.map_eq_map, Option.map_eq_some_iff] at h
  obtain ⟨slot, hslot, rfl⟩ := h
  refine ⟨slot, hslot, ?_⟩
  by_cases hij : i = j
  · exact Or.inr (if_pos hij)
  · exact Or.inl (if_neg hij)

theorem slots_settle_inv {s : Schema} {f : Frame} {i j : Nat} {v : View} {slot' : Slot}
    (h : (f.settle s i v).slots[j]? = some slot') :
    ∃ slot, f.slots[j]? = some slot ∧
      (slot' = slot ∧ (i ≠ j ∨ slot.field.isIgnored = true) ∨
        i = j ∧ slot.field.isIgnored = false ∧
          slot' = slot.conclude f.primary.isEmpty v.fields (f.finding s slot v).outcome) := by
  by_cases hij : i = j
  · subst hij
    have hlt : i < f.slots.length := by
      rw [← length_slots_settle s f i v]
      exact (List.getElem?_eq_some_iff.mp h).1
    refine ⟨f.slots[i], List.getElem?_eq_getElem hlt, ?_⟩
    cases hignored : f.slots[i].field.isIgnored with
    | true =>
      rw [slots_settle_of_ignored s v (List.getElem?_eq_getElem hlt) hignored,
        List.getElem?_eq_getElem hlt] at h
      exact Or.inl ⟨(Option.some.inj h).symm, Or.inr rfl⟩
    | false =>
      rw [settle_of_not_ignored s v (List.getElem?_eq_getElem hlt) hignored, slots_conclude,
        List.getElem?_modify_eq, List.getElem?_eq_getElem hlt] at h
      exact Or.inr ⟨rfl, rfl, (Option.some.inj h).symm⟩
  · rw [slots_settle_of_ne s f v hij] at h
    exact ⟨slot', h, Or.inl ⟨rfl, Or.inl hij⟩⟩

end Frame

/-! ## All slots -/

section

variable {s : Schema} {known : Model → Prop} {f : Frame} {k i : Nat} {d : FieldDeclaration}
  {slot : Slot}

theorem Progress.isRecord (h : Progress s known f k) : s.isRecord f.id = true := by
  induction h using Progress.induct with
  | start id hr => exact hr
  | mark f k i hf ih => exact ih
  | settle f k d v hf hd hv ih => rwa [Frame.settle_id]

theorem Progress.length_slots (h : Progress s known f k) :
    f.slots.length = (s.exported f.id).length := by
  induction h using Progress.induct with
  | start id hr => exact List.length_map _
  | mark f k i hf ih => simpa [Frame.mark, Frame.modifyField] using ih
  | settle f k d v hf hd hv ih => rwa [Frame.length_slots_settle, Frame.settle_id]

theorem Progress.follows (h : Progress s known f k) (hd : (s.exported f.id)[i]? = some d)
    (hslot : f.slots[i]? = some slot) : slot.Follows d := by
  induction h using Progress.induct generalizing slot with
  | start id hr =>
    rw [Frame.slots_ofDeclarations_inv hd hslot]
    exact Slot.Follows.ofDeclaration d
  | mark f k i hf ih =>
    obtain ⟨slot₀, hslot₀, rfl | rfl⟩ := Frame.slots_mark_inv hslot
    · exact ih hd hslot₀
    · exact (ih hd hslot₀).marked
  | settle f k d v hf hdk hv ih =>
    rw [Frame.settle_id] at hd
    obtain ⟨slot₀, hslot₀, ⟨rfl, -⟩ | ⟨-, -, rfl⟩⟩ := Frame.slots_settle_inv hslot
    · exact ih hd hslot₀
    · exact (ih hd hslot₀).conclude _ _ _

theorem Progress.exists_slot (h : Progress s known f k) (hd : (s.exported f.id)[i]? = some d) :
    ∃ slot, f.slots[i]? = some slot ∧ slot.Follows d := by
  have hlt : i < f.slots.length := by
    rw [h.length_slots]
    exact (List.getElem?_eq_some_iff.mp hd).1
  exact ⟨f.slots[i], List.getElem?_eq_getElem hlt, h.follows hd (List.getElem?_eq_getElem hlt)⟩

theorem Progress.exists_declaration (h : Progress s known f k) (hslot : f.slots[i]? = some slot) :
    ∃ d, (s.exported f.id)[i]? = some d ∧ slot.Follows d := by
  have hlt : i < (s.exported f.id).length := by
    rw [← h.length_slots]
    exact (List.getElem?_eq_some_iff.mp hslot).1
  have hd := List.getElem?_eq_getElem hlt
  exact ⟨(s.exported f.id)[i], hd, h.follows hd hslot⟩

/-- A slot whose turn has not come, or never comes, is as it was declared. -/
theorem Progress.isFresh (h : Progress s known f k) (hslot : f.slots[i]? = some slot)
    (hi : k ≤ i ∨ slot.field.isIgnored = true) : slot.IsFresh := by
  induction h using Progress.induct generalizing slot with
  | start id hr =>
    have hmem := List.mem_of_getElem? hslot
    obtain ⟨d, -, rfl⟩ := List.mem_map.mp hmem
    exact Slot.IsFresh.ofDeclaration d
  | mark f k i hf ih =>
    obtain ⟨slot₀, hslot₀, rfl | rfl⟩ := Frame.slots_mark_inv hslot
    · exact ih hslot₀ hi
    · exact (ih hslot₀ hi).marked
  | settle f k d v hf hdk hv ih =>
    obtain ⟨slot₀, hslot₀, ⟨rfl, -⟩ | ⟨rfl, hignored, rfl⟩⟩ := Frame.slots_settle_inv hslot
    · exact ih hslot₀ (hi.imp_left Nat.le_of_succ_le)
    · rw [Slot.isIgnored_conclude, hignored] at hi
      rcases hi with hi | hi
      · exact absurd hi (Nat.not_succ_le_self k)
      · exact absurd hi Bool.false_ne_true

theorem Readable.isRecord {owner t : ModelId} {v : View}
    (h : Readable s known owner (some t) v) : v.isRecord = s.isRecord t := by
  cases h with
  | opened hg => exact hg.isRecord.symm
  | @finished g m tableName hg hne hm hgm =>
    have hrecord : m.isRecord = true := congrArg Model.isRecord hgm
    exact hrecord.trans hg.isRecord.symm
  | blank hr => exact hr.symm

end
end Resolution
end RecordMapping
