import RecordMapping.Proofs.References
import RecordMapping.Proofs.Resolution.View

/-!
What a frame can look like.

`Progress` describes a frame after some of its slots were settled, without the pass around it.  Of the
pass only two things matter for a slot: what could be read of the model that its field refers to, and
whether that model had been finished.  Whatever holds of every such frame holds of every model that is
ever stored, since a stored model is made from a frame all of whose slots are settled.
-/

namespace RecordMapping

/-- The field as it was declared, before it was settled or marked. -/
def Field.skeleton (f : Field) : Field :=
  { f with
    isPrimaryKey := f.settings.contains "PRIMARY_KEY"
    isStored := false
    isScanner := false
    isForeignKey := false
    relationship? := none }

theorem Field.skeleton_ofDeclaration (d : FieldDeclaration) :
    (Field.ofDeclaration d).skeleton = Field.ofDeclaration d := by
  simp only [skeleton, ofDeclaration]

theorem Field.isIgnored_ofDeclaration (d : FieldDeclaration) :
    (ofDeclaration d).isIgnored = d.annotation.isExcluded := by simp only [ofDeclaration]

theorem Field.settings_ofDeclaration {d : FieldDeclaration}
    (h : d.annotation.isExcluded = false) : (ofDeclaration d).settings = d.annotation.settings := by
  simp [ofDeclaration, h]

namespace Resolution

namespace Slot

/-- The slot belongs to the declaration. -/
structure Follows (d : FieldDeclaration) (slot : Slot) : Prop where
  field : slot.field.skeleton = Field.ofDeclaration d
  anonymous : slot.anonymous = d.anonymous

namespace Follows

variable {d : FieldDeclaration} {slot : Slot}

theorem name (h : slot.Follows d) : slot.field.name = d.name := congrArg Field.name h.field

theorem path (h : slot.Follows d) : slot.field.path = [d.name] := congrArg Field.path h.field

theorem type (h : slot.Follows d) : slot.field.type = d.type := congrArg Field.type h.field

theorem isIgnored (h : slot.Follows d) : slot.field.isIgnored = d.annotation.isExcluded := by
  rw [← Field.isIgnored_ofDeclaration, ← h.field]
  rfl

theorem keyRef (h : slot.Follows d) : slot.field.keyRef = (Field.ofDeclaration d).keyRef := by
  rw [← h.field]
  rfl

theorem settings (h : slot.Follows d) : slot.field.settings = (Field.ofDeclaration d).settings := by
  rw [← h.field]
  rfl

theorem ofDeclaration (d : FieldDeclaration) : (Slot.ofDeclaration d).Follows d :=
  ⟨Field.skeleton_ofDeclaration d, rfl⟩

end Follows

/-- The slot after what was found for it.  `first` says that the model has no primary key yet. -/
def conclude (first : Bool) (fields : List Field) (slot : Slot) : Outcome → Slot
  | .column scanner => slot.mapField fun x =>
      { x with
        isStored := true
        isScanner := scanner
        isPrimaryKey := x.isPrimaryKey || (first && x.column == "id") }
  | .related r => slot.mapField fun x => { x with relationship? := some r }
  | .unresolved _ => slot
  | .embedded => { slot with expansion? := some (fields.map (·.within slot.field.name)) }

theorem Follows.conclude {d : FieldDeclaration} {slot : Slot} (h : slot.Follows d) (first : Bool)
    (fields : List Field) (o : Outcome) : (slot.conclude first fields o).Follows d := by
  cases o <;> exact ⟨h.field, h.anonymous⟩

theorem Follows.marked {d : FieldDeclaration} {slot : Slot} (h : slot.Follows d) :
    (slot.mapField Field.marked).Follows d := ⟨h.field, h.anonymous⟩

end Slot

namespace Frame

theorem slots_conclude (f : Frame) (i : Nat) (fields : List Field) (o : Outcome) :
    (f.conclude i fields o).slots =
      f.slots.modify i (Slot.conclude f.primary.isEmpty fields · o) := by
  cases o with
  | column scanner =>
    apply List.ext_getElem?
    intro j
    simp only [conclude, store]
    cases hi : f.slots[i]? with
    | none =>
      have hj : ∀ g : Slot → Slot, f.slots.modify i g = f.slots := fun g =>
        List.modify_eq_self (List.getElem?_eq_none_iff.mp hi)
      simp [modifyField, hj]
    | some slot =>
      by_cases hid : (f.primary.isEmpty && slot.field.column == "id") = true
      · simp only [Option.any_some, hid, if_true, modifyField, List.getElem?_modify]
        by_cases hij : i = j
        · subst hij
          simp [hi, Slot.mapField, Slot.conclude, hid]
        · simp [hij]
      · simp only [Option.any_some, hid, modifyField, List.getElem?_modify]
        by_cases hij : i = j
        · subst hij
          simp [hi, Slot.mapField, Slot.conclude, hid]
        · simp [hij]
  | related r => rfl
  | unresolved foreignKey =>
    apply List.ext_getElem?
    intro j
    simp only [conclude, leaveUnresolved]
    have hid : f.slots.modify i (Slot.conclude f.primary.isEmpty fields · (.unresolved foreignKey)) =
        f.slots := by
      apply List.ext_getElem?
      intro k
      rw [List.getElem?_modify]
      cases f.slots[k]? <;> simp [Slot.conclude]
    rw [hid]
    split <;> rfl
  | embedded => rfl

/-- What was found for a slot, `v` being what can be read of the model that its field refers to. -/
def finding (s : Schema) (f : Frame) (slot : Slot) (v : View) : Finding :=
  find ⟨f.id, s.name f.id, f.view⟩ (fun t => ⟨t, s.name t, v⟩) slot.field slot.anonymous

def settle (s : Schema) (f : Frame) (i : Nat) (v : View) : Frame :=
  match f.slots[i]? with
  | none => f
  | some slot =>
    if slot.field.isIgnored then f else f.conclude i v.fields (f.finding s slot v).outcome

@[simp]
theorem settle_id (s : Schema) (f : Frame) (i : Nat) (v : View) : (f.settle s i v).id = f.id := by
  unfold settle
  split
  · rfl
  · split
    · rfl
    · exact f.conclude_id _ _ _

theorem slots_settle_of_ne (s : Schema) (f : Frame) {i j : Nat} (v : View) (hij : i ≠ j) :
    (f.settle s i v).slots[j]? = f.slots[j]? := by
  unfold settle
  split
  · rfl
  · split
    · rfl
    · rw [slots_conclude, List.getElem?_modify]
      simp [hij]

theorem take_slots_settle (s : Schema) (f : Frame) (k : Nat) (v : View) :
    (f.settle s k v).slots.take k = f.slots.take k := by
  apply List.ext_getElem?
  intro j
  rw [List.getElem?_take, List.getElem?_take]
  split
  · next hj => exact slots_settle_of_ne s f v (Nat.ne_of_gt hj)
  · rfl

theorem slots_settle_of_ignored (s : Schema) {f : Frame} {i : Nat} {slot : Slot} (v : View)
    (hslot : f.slots[i]? = some slot) (hignored : slot.field.isIgnored = true) :
    f.settle s i v = f := by simp [settle, hslot, hignored]

theorem settle_of_not_ignored (s : Schema) {f : Frame} {i : Nat} {slot : Slot} (v : View)
    (hslot : f.slots[i]? = some slot) (hignored : slot.field.isIgnored = false) :
    f.settle s i v = f.conclude i v.fields (f.finding s slot v).outcome := by
  simp [settle, hslot, hignored]

theorem length_slots_settle (s : Schema) (f : Frame) (i : Nat) (v : View) :
    (f.settle s i v).slots.length = f.slots.length := by
  unfold settle
  split
  · rfl
  · split
    · rfl
    · rw [slots_conclude, List.length_modify]

end Frame

/-! ## Frames in progress -/

/-- The frame of a model after its first slots were settled.  A slot is settled alone if its field
refers to no model, and otherwise from another frame, from a finished model, or from the model of a
type that is no record.  What is `known` of finished models leaves marks out. -/
inductive Progress (s : Schema) (known : Model → Prop) : Frame → Nat → Prop
  | start {id : ModelId} (hr : s.isRecord id = true) :
      Progress s known (.ofDeclarations id (s.exported id)) 0
  | mark {f : Frame} {k : Nat} (i : Nat) (hf : Progress s known f k) : Progress s known (f.mark i) k
  | alone {f : Frame} {k : Nat} {d : FieldDeclaration} (v : View) (hf : Progress s known f k)
      (hd : (s.exported f.id)[k]? = some d) (ht : d.target? = none) :
      Progress s known (f.settle s k v) (k + 1)
  | opened {f g : Frame} {k j : Nat} {d : FieldDeclaration} (hf : Progress s known f k)
      (hd : (s.exported f.id)[k]? = some d) (hg : Progress s known g j)
      (ht : d.target? = some g.id) : Progress s known (f.settle s k g.view) (k + 1)
  | finished {f g : Frame} {k : Nat} {d : FieldDeclaration} {m : Model} {tableName : String}
      (hf : Progress s known f k) (hd : (s.exported f.id)[k]? = some d)
      (hg : Progress s known g (s.exported g.id).length) (ht : d.target? = some g.id)
      (hne : g.id ≠ f.id) (hm : known m.unmarked)
      (hgm : m.unmarked = (g.toModel tableName).unmarked) :
      Progress s known (f.settle s k (viewModel m)) (k + 1)
  | blank {f : Frame} {k : Nat} {d : FieldDeclaration} {t : ModelId} (hf : Progress s known f k)
      (hd : (s.exported f.id)[k]? = some d) (ht : d.target? = some t)
      (hr : s.isRecord t = false) : Progress s known (f.settle s k (viewModel (.blank t))) (k + 1)

/-- What a field of `owner` that refers to `target?` can be settled from. -/
inductive Readable (s : Schema) (known : Model → Prop) (owner : ModelId) :
    Option ModelId → View → Prop
  | alone (v : View) : Readable s known owner none v
  | opened {g : Frame} {j : Nat} (hg : Progress s known g j) :
      Readable s known owner (some g.id) g.view
  | finished {g : Frame} {m : Model} {tableName : String}
      (hg : Progress s known g (s.exported g.id).length) (hne : g.id ≠ owner)
      (hm : known m.unmarked) (hgm : m.unmarked = (g.toModel tableName).unmarked) :
      Readable s known owner (some g.id) (viewModel m)
  | blank {t : ModelId} (hr : s.isRecord t = false) :
      Readable s known owner (some t) (viewModel (.blank t))

section

variable {s : Schema} {known : Model → Prop} {f : Frame} {k : Nat}

theorem Progress.settle {d : FieldDeclaration} {v : View} (hf : Progress s known f k)
    (hd : (s.exported f.id)[k]? = some d) (hv : Readable s known f.id d.target? v) :
    Progress s known (f.settle s k v) (k + 1) := by
  generalize ht : d.target? = target? at hv
  cases hv with
  | alone => exact .alone v hf hd ht
  | opened hg => exact .opened hf hd hg ht
  | finished hg hne hm hgm => exact .finished hf hd hg ht hne hm hgm
  | blank hr => exact .blank hf hd ht hr

/-- The four ways to settle a slot in one case. -/
@[elab_as_elim]
theorem Progress.induct {motive : (f : Frame) → (k : Nat) → Progress s known f k → Prop}
    (start : ∀ id (hr : s.isRecord id = true), motive _ 0 (.start hr))
    (mark : ∀ f k i (hf : Progress s known f k), motive f k hf → motive _ k (.mark i hf))
    (settle : ∀ f k d v (hf : Progress s known f k) (hd : (s.exported f.id)[k]? = some d)
      (hv : Readable s known f.id d.target? v), motive f k hf → motive _ (k + 1) (hf.settle hd hv))
    (h : Progress s known f k) : motive f k h := by
  induction h with
  | start hr => exact start _ hr
  | mark i hf ih => exact mark _ _ i hf ih
  | @alone f k d v hf hd ht ih => exact settle f k d v hf hd (by rw [ht]; exact .alone v) ih
  | @opened f g k j d hf hd hg ht ih _ =>
    exact settle f k d g.view hf hd (by rw [ht]; exact .opened hg) ih
  | @finished f g k d m _ hf hd hg ht hne hm hgm ih _ =>
    exact settle f k d (viewModel m) hf hd (by rw [ht]; exact .finished hg hne hm hgm) ih
  | @blank f k d t hf hd ht hr ih =>
    exact settle f k d _ hf hd (by rw [ht]; exact .blank hr) ih

end
end Resolution
end RecordMapping
