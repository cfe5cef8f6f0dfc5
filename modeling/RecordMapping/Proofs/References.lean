import RecordMapping.Declaration

/-!
What a declared field refers to.

A field may hold records of a model, one or several.  It may also be an embedding, which holds one
record and is replaced by that record's fields.
-/

namespace RecordMapping

/-! ## Holding -/

/-- The values of the type are values of the model, or sequences of them.  One level of optionality is
looked through on the type and on the elements. -/
inductive FieldType.Holds : FieldType → ModelId → Prop
  | one {t : FieldType} {id : ModelId} (ht : t.present = .model id) : Holds t id
  | many {t e : FieldType} {id : ModelId} (ht : t.present = .sequence e)
      (he : e.present = .model id) : Holds t id

theorem FieldType.associated?_eq_some_iff {t : FieldType} {id : ModelId} :
    t.associated? = some id ↔ t.Holds id := by
  constructor
  · intro h
    unfold associated? role at h
    split at h
    · simp [Role.target?] at h
    · next ht =>
      obtain rfl : _ = id := Option.some.inj h
      exact .one ht
    · next e ht =>
      split at h
      · next he =>
        obtain rfl : _ = id := Option.some.inj h
        exact .many ht he
      · simp [Role.target?] at h
    · simp [Role.target?] at h
  · intro h
    cases h with
    | one ht => simp [associated?, role, ht, Role.target?]
    | many ht he => simp [associated?, role, ht, he, Role.target?]

theorem FieldType.Holds.unique {t : FieldType} {id id' : ModelId} (h : t.Holds id)
    (h' : t.Holds id') : id = id' := by
  rw [← associated?_eq_some_iff] at h h'
  exact Option.some.inj (h.symm.trans h')

theorem FieldDeclaration.target?_eq_some_iff {d : FieldDeclaration} {t : ModelId} :
    d.target? = some t ↔ d.annotation.isExcluded = false ∧ d.type.Holds t := by
  rw [target?, ← FieldType.associated?_eq_some_iff]
  cases d.annotation.isExcluded <;> simp

/-! ## Embedding -/

/-- A field that is replaced by the fields of the record that it holds. -/
def Schema.Embeds (s : Schema) (d : FieldDeclaration) : Prop :=
  d.annotation.isExcluded = false ∧
    (d.annotation.settings.contains "EMBEDDED" = true ∨ d.anonymous = true) ∧
    ∃ t, d.type.present = .model t ∧ s.isRecord t = true

instance Schema.decidableEmbeds (s : Schema) : DecidablePred s.Embeds := fun d =>
  have : Decidable (∃ t, d.type.present = .model t ∧ s.isRecord t = true) :=
    match h : d.type.present with
    | .model t => decidable_of_iff (s.isRecord t = true) (by simp)
    | .scalar _ | .time _ | .scanner _ | .optional _ | .sequence _ => .isFalse (by simp)
  inferInstanceAs (Decidable (_ ∧ _ ∧ _))

/-- A model that embeds no other one. -/
def Schema.IsFlat (s : Schema) (id : ModelId) : Prop := ∀ d ∈ s.exported id, ¬ s.Embeds d

theorem FieldType.role_eq_one_iff {t : FieldType} {id : ModelId} :
    t.role = .one id ↔ t.present = .model id := by
  unfold role
  constructor
  · intro h
    split at h
    · contradiction
    · next ht =>
      obtain rfl : _ = id := Role.one.inj h
      exact ht
    · split at h <;> contradiction
    · contradiction
  · intro h
    simp [h]

end RecordMapping
