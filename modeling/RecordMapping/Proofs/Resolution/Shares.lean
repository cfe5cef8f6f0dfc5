import RecordMapping.Proofs.Resolution.Declared

/-!
What a declared field contributes to the finished model.

The fields of a model, and the list of its unresolved relationships, are put together from the shares
of its slots.  A settled slot shows the outcome that was found for it, and its share says all of that
outcome: an unresolved relationship leaves the slot open, and nothing else does.
-/

namespace RecordMapping

open Resolution

/-- The field takes part in the mapping and holds no records. -/
def Schema.Stores (s : Schema) (f : Field) : Prop :=
  f.isIgnored = false ∧ ∀ t, f.type.Holds t → s.isRecord t = false

/-- The part of a model that stems from one declared field. -/
structure Share where
  fields : List Field
  unresolved? : Option Unresolved

/-- The model consists of the shares, in order. -/
structure Model.ComposedOf (m : Model) (shares : List Share) : Prop where
  fields : m.fields = shares.flatMap (·.fields)
  unresolved : m.unresolved = shares.filterMap (·.unresolved?)

namespace Resolution

/-! ## Shares of slots -/

namespace Outcome

/-- The entry for an outcome that leaves a field open. -/
def unresolved? (name : String) : Outcome → Option Unresolved
  | .unresolved foreignKey => some ⟨name, foreignKey⟩
  | _ => none

end Outcome

namespace Slot

/-- The entry for a slot that is open.  The key is the one that was looked for last. -/
def unresolved? (owner : String) (slot : Slot) : Option Unresolved :=
  if slot.field.isIgnored || slot.field.isStored || slot.field.relationship?.isSome ||
    slot.expansion?.isSome then none
  else some ⟨slot.field.name, (slot.field.settings.nonEmpty? "FOREIGNKEY").getD (owner ++ "Id")⟩

theorem unresolved?_of_isIgnored {slot : Slot} (h : slot.field.isIgnored = true)
    (owner : String) : slot.unresolved? owner = none := by simp [unresolved?, h]

theorem field_of_unresolved? {owner : String} {slot : Slot} {u : Unresolved}
    (h : slot.unresolved? owner = some u) : u.field = slot.field.name := by
  unfold unresolved? at h
  split at h
  · contradiction
  · rw [← Option.some.inj h]

/-- A slot that shows an outcome is open if and only if the outcome is. -/
theorem Shows.unresolved? {fields : List Field} {o : Outcome} {slot : Slot}
    (h : slot.Shows fields o) (hincluded : slot.field.isIgnored = false) {owner : String}
    (hkey : ∀ key, o = .unresolved key →
      key = (slot.field.settings.nonEmpty? "FOREIGNKEY").getD (owner ++ "Id")) :
    slot.unresolved? owner = o.unresolved? slot.field.name := by
  unfold Slot.unresolved?
  rw [hincluded, h.isStored, h.relationship, h.expansion]
  cases o with
  | column scanner => simp [Outcome.isColumn, Outcome.unresolved?]
  | embedded => simp [Outcome.isColumn, Outcome.unresolved?]
  | related r => simp [Outcome.relationship?, Outcome.unresolved?]
  | unresolved key =>
    simp [Outcome.isColumn, Outcome.relationship?, Outcome.unresolved?, hkey key rfl]

end Slot

/-! ## The outcome of a slot -/

/-- What is found for a declared field if `v` is what can be read of the model that it refers to. -/
def declaredFinding (s : Schema) (owner : ModelId) (d : FieldDeclaration) (v : View) : Finding :=
  find (s.declaredSide owner) (fun t => ⟨t, s.name t, v⟩) (Field.ofDeclaration d) d.anonymous

section

variable {s : Schema} {known : Model → Prop} {f : Frame} {k i : Nat} {d : FieldDeclaration}
  {slot : Slot}

/-- What is found for a slot depends on the declaration, and on the model that it refers to. -/
theorem Progress.finding_eq (h : Progress s known f k) (hslot : slot.Follows d) (v : View) :
    f.finding s slot v = declaredFinding s f.id d v := by
  rw [Frame.finding, declaredFinding, hslot.anonymous]
  have howner : Side.Alike ⟨f.id, s.name f.id, f.view⟩ (s.declaredSide f.id) :=
    ⟨rfl, rfl, h.view_alike⟩
  apply find_congr howner
  · intro t _
    exact ⟨rfl, rfl, View.Alike.refl v⟩
  · exact hslot.name
  · exact hslot.type
  · exact hslot.settings

/-- A settled slot shows what was found for it, from what could be read at that time. -/
theorem Progress.settled (h : Progress s known f k) (hi : i < k)
    (hd : (s.exported f.id)[i]? = some d) (hincluded : d.annotation.isExcluded = false)
    (hslot : f.slots[i]? = some slot) :
    ∃ v, Readable s known f.id d.target? v ∧
      slot.Shows v.fields (declaredFinding s f.id d v).outcome := by
  induction h using Progress.induct generalizing slot with
  | start id hr => exact absurd hi (Nat.not_lt_zero i)
  | mark f k j hf ih =>
    obtain ⟨slot₀, hslot₀, rfl | rfl⟩ := Frame.slots_mark_inv hslot
    · exact ih hi hd hslot₀
    · obtain ⟨v, hv, hshows⟩ := ih hi hd hslot₀
      exact ⟨v, hv, hshows.marked⟩
  | settle f k d' v hf hdk hv ih =>
    rw [Frame.settle_id] at hd ⊢
    obtain ⟨slot₀, hslot₀, ⟨rfl, hother⟩ | ⟨rfl, hignored, rfl⟩⟩ := Frame.slots_settle_inv hslot
    · have hfollows := hf.follows hd hslot₀
      rw [hfollows.isIgnored, hincluded] at hother
      have hne : k ≠ i := hother.resolve_right Bool.false_ne_true
      exact ih (by omega) hd hslot₀
    · obtain rfl : d' = d := Option.some.inj (hdk.symm.trans hd)
      have hfollows := hf.follows hd hslot₀
      have hfresh := hf.isFresh hslot₀ (Or.inl (Nat.le_refl k))
      refine ⟨v, hv, ?_⟩
      rw [← hf.finding_eq hfollows]
      exact hfresh.shows _ _ _

theorem isColumn_heldByTarget (kind : Relationship.Kind) (target : Side) (settings : Settings)
    (foreignKey : String) :
    (heldByTarget kind target settings foreignKey).outcome.isColumn = false := by
  rcases heldByTarget_outcome kind target settings foreignKey with ⟨r, hr⟩ | hr
  · rw [hr]
    rfl
  · rw [hr]
    rfl

theorem isColumn_findOne (owner target : Side) (field : Field) (embeds : Bool) :
    (findOne owner target field embeds).outcome.isColumn = false := by
  cases embeds with
  | true =>
    rw [findOne_embeds]
    rfl
  | false =>
    cases hlocate : owner.view.locate?
        ((field.settings.nonEmpty? "FOREIGNKEY").getD (field.name ++ "Id")) with
    | some found =>
      rw [findOne_of_some hlocate]
      rfl
    | none =>
      rw [findOne_of_none hlocate]
      exact isColumn_heldByTarget _ _ _ _

theorem isColumn_findMany (owner target : Side) (field : Field) :
    (findMany owner target field).outcome.isColumn = false := by
  cases hsetting : field.settings.get? "MANY2MANY" with
  | some setting =>
    rw [findMany_of_some hsetting]
    rfl
  | none =>
    rw [findMany_of_none hsetting]
    exact isColumn_heldByTarget _ _ _ _

/-- A field makes a column if and only if it holds no records. -/
theorem isColumn_find_iff {owner : Side} {side : ModelId → Side} {field : Field} {anonymous : Bool} :
    (find owner side field anonymous).outcome.isColumn = true ↔
      ∀ t, field.type.Holds t → (side t).view.isRecord = false := by
  simp only [← FieldType.associated?_eq_some_iff]
  rcases find_cases owner side field anonymous with
    ⟨⟨scanner, hfind⟩, hnone⟩ | ⟨t, ht, hrecord, hfind⟩
  · rw [hfind]
    exact iff_of_true rfl hnone
  · have hcolumn : (find owner side field anonymous).outcome.isColumn = false := by
      rcases hfind with ⟨embeds, hfind⟩ | hfind
      · rw [hfind, isColumn_findOne]
      · rw [hfind, isColumn_findMany]
    refine iff_of_false (by simp [hcolumn]) fun h => ?_
    rw [h t ht] at hrecord
    contradiction

/-- A settled slot is stored as a column unless its field is ignored or holds records. -/
theorem Progress.isColumn_iff (h : Progress s known f k) (hi : i < k)
    (hd : (s.exported f.id)[i]? = some d) (hslot : f.slots[i]? = some slot) :
    slot.field.isColumn = true ↔ s.Stores slot.field := by
  have hfollows := h.follows hd hslot
  rw [Field.isColumn, Schema.Stores, hfollows.isIgnored, hfollows.type]
  cases hexcluded : d.annotation.isExcluded with
  | true => simp
  | false =>
    obtain ⟨v, hv, hshows⟩ := h.settled hi hd hexcluded hslot
    rw [hshows.isStored, Bool.not_false, Bool.true_and, declaredFinding, isColumn_find_iff]
    have hrecord : ∀ t, d.type.Holds t → v.isRecord = s.isRecord t := by
      intro t ht
      rw [FieldDeclaration.target?_eq_some_iff.mpr ⟨hexcluded, ht⟩] at hv
      exact hv.isRecord
    refine ⟨fun hall => ⟨rfl, fun t ht => ?_⟩, fun hall t ht => ?_⟩
    · rw [← hrecord t ht]
      exact hall t ht
    · show v.isRecord = false
      rw [hrecord t ht]
      exact hall.2 t ht

theorem Slot.Follows.unresolved? {owner : ModelId} {fields : List Field} {v : View}
    (hslot : slot.Follows d) (hincluded : d.annotation.isExcluded = false)
    (hshows : slot.Shows fields (declaredFinding s owner d v).outcome) :
    slot.unresolved? (s.name owner) = (declaredFinding s owner d v).outcome.unresolved? d.name := by
  rw [← hslot.name]
  apply hshows.unresolved? (hslot.isIgnored.trans hincluded)
  intro key hkey
  rw [hslot.settings]
  exact unresolved_of_find hkey

theorem Frame.unresolved_conclude {f : Frame} {i : Nat} {slot : Slot}
    (hslot : f.slots[i]? = some slot) (fields : List Field) (o : Outcome) :
    (f.conclude i fields o).unresolved =
      f.unresolved ++ (o.unresolved? slot.field.name).toList := by
  cases o with
  | column scanner =>
    simp only [conclude, store]
    split <;> simp [modifyField, Outcome.unresolved?]
  | embedded => simp [conclude, embed, Outcome.unresolved?]
  | related r => simp [conclude, relate, modifyField, Outcome.unresolved?]
  | unresolved key => simp [conclude, leaveUnresolved, hslot, Outcome.unresolved?]

theorem Progress.unresolved_settle {v : View} {slot' : Slot} (h : Progress s known f k)
    (hd : (s.exported f.id)[k]? = some d) (hv : Readable s known f.id d.target? v)
    (hslot' : (f.settle s k v).slots[k]? = some slot') :
    (f.settle s k v).unresolved =
      f.unresolved ++ (slot'.unresolved? (s.name f.id)).toList := by
  obtain ⟨slot, hslot, hfollows⟩ := h.exists_slot hd
  have hfollows' := (h.settle hd hv).follows
    (show (s.exported (f.settle s k v).id)[k]? = some d by rwa [Frame.settle_id]) hslot'
  cases hignored : slot.field.isIgnored with
  | true =>
    have hignored' : slot'.field.isIgnored = true := by
      rw [hfollows'.isIgnored, ← hfollows.isIgnored, hignored]
    rw [Frame.slots_settle_of_ignored s v hslot hignored, Slot.unresolved?_of_isIgnored hignored']
    exact (List.append_nil _).symm
  | false =>
    have hincluded : d.annotation.isExcluded = false := hfollows.isIgnored.symm.trans hignored
    have hconclude := Frame.settle_of_not_ignored s v hslot hignored
    rw [hconclude, Frame.slots_conclude, List.getElem?_modify_eq, hslot] at hslot'
    obtain rfl : _ = slot' := Option.some.inj hslot'
    have hshows := (h.isFresh hslot (Or.inl (Nat.le_refl k))).shows f.primary.isEmpty v.fields
      (f.finding s slot v).outcome
    rw [hconclude, Frame.unresolved_conclude hslot, hfollows.name]
    rw [h.finding_eq hfollows] at hshows hfollows' ⊢
    rw [hfollows'.unresolved? hincluded hshows]

/-- The list of unresolved relationships has an entry for each open slot. -/
theorem Progress.unresolved (h : Progress s known f k) :
    f.unresolved = (f.slots.take k).filterMap (Slot.unresolved? (s.name f.id)) := by
  induction h using Progress.induct with
  | start id hr => rfl
  | mark f k i hf ih =>
    have hopen : ∀ slots : List Slot, slots.filterMap (Slot.unresolved? (s.name f.id)) =
        (slots.map (Slot.unresolved? (s.name f.id))).filterMap id := by
      intro slots
      rw [List.filterMap_map]
      rfl
    show f.unresolved = ((f.slots.modify i (·.mapField Field.marked)).take k).filterMap
      (Slot.unresolved? (s.name f.id))
    have hmarked : ∀ slot : Slot, (slot.mapField Field.marked).unresolved? (s.name f.id) =
        slot.unresolved? (s.name f.id) := fun _ => rfl
    rw [ih, hopen, hopen, List.map_take, List.map_take, map_modify_of_comp hmarked]
  | settle f k d v hf hd hv ih =>
    obtain ⟨slot, hslot, -⟩ := (hf.settle hd hv).exists_slot
      (show (s.exported (f.settle s k v).id)[k]? = some d by rwa [Frame.settle_id])
    rw [Frame.settle_id, List.take_add_one, Frame.take_slots_settle, hslot, List.filterMap_append, ← ih,
      hf.unresolved_settle hd hv hslot]
    rfl

/-! ## Paths -/

/-- What stands in a field's place is the field, or has it as the first step of its path. -/
theorem Progress.fields_cases (h : Progress s known f k) (hd : (s.exported f.id)[i]? = some d)
    (hslot : f.slots[i]? = some slot) :
    slot.fields = [slot.field] ∨
      ∃ v, Readable s known f.id d.target? v ∧
        slot.fields = v.fields.map (·.within slot.field.name) := by
  have hfollows := h.follows hd hslot
  by_cases hfresh : k ≤ i ∨ slot.field.isIgnored = true
  · left
    rw [Slot.fields, (h.isFresh hslot hfresh).expansion]
    rfl
  · rw [not_or, Nat.not_le, Bool.not_eq_true] at hfresh
    obtain ⟨v, hv, hshows⟩ := h.settled hfresh.1 hd (hfollows.isIgnored.symm.trans hfresh.2) hslot
    rw [Slot.fields, hshows.expansion]
    split
    · exact Or.inr ⟨v, hv, rfl⟩
    · exact Or.inl rfl

theorem Progress.path_ne_nil (h : Progress s known f k) {x : Field} (hx : x ∈ f.fields) :
    x.path ≠ [] := by
  obtain ⟨slot, hmem, hx⟩ := List.mem_flatMap.mp hx
  obtain ⟨i, hslot⟩ := List.getElem?_of_mem hmem
  obtain ⟨d, hd, hfollows⟩ := h.exists_declaration hslot
  rcases h.fields_cases hd hslot with hfields | ⟨v, -, hfields⟩
  · rw [hfields, List.mem_singleton] at hx
    rw [hx, hfollows.path]
    exact List.cons_ne_nil _ _
  · rw [hfields] at hx
    obtain ⟨y, -, rfl⟩ := List.mem_map.mp hx
    exact List.cons_ne_nil _ _

theorem Readable.path_ne_nil {owner t : ModelId} {v : View}
    (h : Readable s known owner (some t) v) {x : Field} (hx : x ∈ v.fields) : x.path ≠ [] := by
  cases h with
  | @opened g j hg =>
    obtain ⟨slot, hmem, rfl⟩ := List.mem_map.mp hx
    obtain ⟨i, hslot⟩ := List.getElem?_of_mem hmem
    obtain ⟨d, -, hfollows⟩ := hg.exists_declaration hslot
    rw [hfollows.path]
    exact List.cons_ne_nil _ _
  | @finished g m tableName hg hne hm hgm =>
    have hx' : x.unmarked ∈ (g.toModel tableName).unmarked.fields := by
      rw [← hgm]
      exact List.mem_map_of_mem hx
    obtain ⟨y, hy, hyx⟩ := List.mem_map.mp hx'
    show x.unmarked.path ≠ []
    rw [← hyx]
    have hnil : y.path ≠ [] := hg.path_ne_nil hy
    exact hnil
  | blank hr => exact absurd hx List.not_mem_nil

end

end Resolution
end RecordMapping
