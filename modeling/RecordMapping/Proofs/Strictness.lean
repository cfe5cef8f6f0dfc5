import RecordMapping.Proofs.Embedding

/-!
What a strict registry refuses.

A strict registry answers for a record whose own fields are all settled.  It does not look at the fields
that the record takes over.  These are settled as well if none of the absorbed models has a field of its
own that is not, provided that no absorbed model refers back.
-/

namespace RecordMapping

open Resolution

/-- The field is ignored, or stored as it is, or has a relationship. -/
def Field.IsSettled (f : Field) : Prop :=
  f.isIgnored = true ∨ f.isStored = true ∨ f.relationship?.isSome = true

/-- What is answered for the model `m` at a place by a strict registry that holds `models`. -/
structure Registry.Verdict (s : Schema) (models : List Model) (place : Nat) (m : Model)
    (answer : Answer) : Prop where
  accepted : answer = .model place ↔
    s.isRecord m.id = true ∧ ∀ x ∈ m.fields, x.IsOwn → x.IsSettled
  notARecord : s.isRecord m.id = false → answer = .refusal (.notARecord (s.name m.id))
  unresolved : s.isRecord m.id = true → answer ≠ .model place →
    ∃ x ∈ m.fields, x.IsOwn ∧ ¬ x.IsSettled ∧
      ∃ key, answer = .refusal (.unresolvedRelationship (s.name m.id) x.name key)
  complete : s.isRecord m.id = true → s.AbsorbsForward m.id →
    ((∀ x ∈ m.fields, x.IsSettled) ↔
      ∀ b ∈ models, Relation.ReflTransGen s.Absorbs m.id b.id → b.unresolved = [])

namespace Resolution

theorem Slot.unresolved?_eq_none_iff {owner : String} {slot : Slot} :
    slot.unresolved? owner = none ↔ slot.field.IsSettled ∨ slot.expansion? ≠ none := by
  rw [Slot.unresolved?, Field.IsSettled, ← Option.isSome_iff_ne_none]
  split
  · next h =>
    simp only [Bool.or_eq_true, or_assoc] at h
    simp [or_assoc, h]
  · next h =>
    simp only [Bool.or_eq_true, or_assoc] at h
    simp [or_assoc, h]

section

variable {s : Schema} {known : Model → Prop} {f : Frame} {m : Model} {tableName : String}

theorem Progress.exists_of_mem_unresolved (h : Progress s known f (s.exported f.id).length)
    (hm : m.unmarked = (f.toModel tableName).unmarked) {u : Unresolved} (hu : u ∈ m.unresolved) :
    ∃ x ∈ m.fields, x.IsOwn ∧ ¬ x.IsSettled ∧ x.name = u.field := by
  have hunresolved : m.unresolved = f.unresolved := congrArg Model.unresolved hm
  rw [hunresolved, h.unresolved_eq] at hu
  obtain ⟨slot, hmem, hslot⟩ := List.mem_filterMap.mp hu
  have hopen : ¬ (slot.field.IsSettled ∨ slot.expansion? ≠ none) := by
    rw [← Slot.unresolved?_eq_none_iff, hslot]
    exact nofun
  rw [not_or, not_not] at hopen
  have hfield : slot.field ∈ f.fields :=
    List.mem_flatMap.mpr ⟨slot, hmem, by simp [Slot.fields, hopen.2]⟩
  have hfields : m.fields.map Field.unmarked = f.fields.map Field.unmarked :=
    congrArg Model.fields hm
  obtain ⟨x, hx, hxslot⟩ := List.mem_map.mp (hfields ▸ List.mem_map_of_mem hfield)
  obtain ⟨i, hi⟩ := List.getElem?_of_mem hmem
  obtain ⟨d, -, hfollows⟩ := h.exists_declaration hi
  refine ⟨x, hx, ?_, ?_, ?_⟩
  · show x.unmarked.path.length = 1
    rw [hxslot]
    exact hfollows.isOwn
  · show ¬ x.unmarked.IsSettled
    rw [hxslot]
    exact hopen.1
  · show x.unmarked.name = u.field
    rw [hxslot, Slot.field_of_unresolved? hslot]
    rfl

theorem Progress.isSettled_of_isOwn (h : Progress s known f (s.exported f.id).length)
    (hm : m.unmarked = (f.toModel tableName).unmarked) (hnone : m.unresolved = []) {x : Field}
    (hx : x ∈ m.fields) (hown : x.IsOwn) : x.IsSettled := by
  have hunresolved : m.unresolved = f.unresolved := congrArg Model.unresolved hm
  obtain ⟨i, d, slot, -, hslot, hexpansion, hxslot⟩ := h.slot_of_mem hm hx hown
  rw [hunresolved, h.unresolved_eq, List.filterMap_eq_nil_iff] at hnone
  have hsettled := Slot.unresolved?_eq_none_iff.mp (hnone slot (List.mem_of_getElem? hslot))
  show x.unmarked.IsSettled
  rw [hxslot]
  exact hsettled.resolve_right fun hne => hne hexpansion

end

end Resolution

namespace Registry

section

variable {s : Schema} {r : Registry} (hr : Occurs (r.scope s) ⟨{}, []⟩)

include hr

theorem exists_of_mem_unresolved {m : Model} (hm : m ∈ r.models) {u : Unresolved}
    (hu : u ∈ m.unresolved) : ∃ x ∈ m.fields, x.IsOwn ∧ ¬ x.IsSettled ∧ x.name = u.field := by
  cases hr.traced.of_has hm with
  | record hf hmade => exact hf.exists_of_mem_unresolved hmade hu
  | blank _ hblank =>
    rw [Model.eq_blank_of_unmarked hblank] at hu
    exact absurd hu List.not_mem_nil

theorem unresolved_eq_nil_iff {m : Model} (hm : m ∈ r.models) :
    m.unresolved = [] ↔ ∀ x ∈ m.fields, x.IsOwn → x.IsSettled := by
  constructor
  · intro hnone x hx hown
    cases hr.traced.of_has hm with
    | record hf hmade => exact hf.isSettled_of_isOwn hmade hnone hx hown
    | blank _ hblank => exact absurd hx (Model.not_mem_fields_of_unmarked hblank x)
  · intro h
    rw [List.eq_nil_iff_forall_not_mem]
    intro u hu
    obtain ⟨x, hx, hown, hopen, -⟩ := exists_of_mem_unresolved hr hm hu
    exact hopen (h x hx hown)

theorem forall_isSettled_iff {m : Model} (hm : m ∈ r.models) (hrec : m.isRecord = true)
    (hforward : s.AbsorbsForward m.id) :
    (∀ x ∈ m.fields, x.IsSettled) ↔
      ∀ b ∈ r.models, Relation.ReflTransGen s.Absorbs m.id b.id → b.unresolved = [] := by
  obtain ⟨i, hi⟩ := List.getElem?_of_mem hm
  rw [forall_fields_iff hr (fun _ => Iff.rfl) hi hrec hforward]
  constructor
  · intro h b hb hreach
    exact (unresolved_eq_nil_iff hr hb).mpr (h b hb hreach)
  · intro h b hb hreach
    exact (unresolved_eq_nil_iff hr hb).mp (h b hb hreach)

/-- A strict registry answers by the list of unresolved relationships. -/
theorem verdict_of_getElem? {place : Nat} {m : Model} (hm : r.models[place]? = some m)
    (hstrict : r.config.strict = true) :
    Verdict s r.models place m (r.answer s place (.tryGet m.id)) := by
  have hmem := List.mem_of_getElem? hm
  have hrecord : m.isRecord = s.isRecord m.id := (hr.traced.of_has hmem).isRecord
  have hanswer : r.answer s place (.tryGet m.id) =
      (m.objection? (s.name m.id)).elim (.model place) .refusal := by
    cases hobjection : m.objection? (s.name m.id) <;> simp [answer, hstrict, hm, hobjection]
  rw [hanswer, Model.objection?]
  cases hrec : m.isRecord with
  | false =>
    rw [hrec] at hrecord
    refine ⟨?_, fun _ => rfl, fun h => ?_, fun h => ?_⟩
    · exact iff_of_false (by simp) fun h => absurd (hrecord.trans h.1) Bool.false_ne_true
    · exact absurd (hrecord.trans h) Bool.false_ne_true
    · exact absurd (hrecord.trans h) Bool.false_ne_true
  | true =>
    rw [hrec] at hrecord
    have hcomplete := forall_isSettled_iff hr hmem hrec
    rw [if_pos rfl]
    cases hhead : m.unresolved.head? with
    | none =>
      have hsettled := (unresolved_eq_nil_iff hr hmem).mp (List.head?_eq_none_iff.mp hhead)
      refine ⟨iff_of_true rfl ⟨hrecord.symm, hsettled⟩, fun h => ?_, fun _ h => absurd rfl h,
        fun _ => hcomplete⟩
      exact absurd (hrecord.trans h).symm Bool.false_ne_true
    | some u =>
      obtain ⟨x, hx, hown, hopen, hname⟩ :=
        exists_of_mem_unresolved hr hmem (List.mem_of_mem_head? hhead)
      refine ⟨iff_of_false (by simp) fun h => hopen (h.2 x hx hown), fun h => ?_, fun _ _ => ?_,
        fun _ => hcomplete⟩
      · exact absurd (hrecord.trans h).symm Bool.false_ne_true
      · exact ⟨x, hx, hown, hopen, u.foreignKey, by rw [hname]; rfl⟩

end

/-- Whatever session has gone before, a strict registry answers with a model if and only if it is a record
and its own fields are settled.  It names the other types, and otherwise one of the fields that are not
settled.  The fields that a record takes over are settled as well exactly if no model that it absorbs has
an unresolved relationship, unless an absorbed model refers back. -/
theorem tryGet_session (s : Schema) (c : Config) (qs : List Request) (id : ModelId)
    (hstrict : c.strict = true) :
    let served := (serveAll s { config := c } qs).serve s (.tryGet id)
    ∃ place m, served.1.models[place]? = some m ∧ m.id = id ∧
      Verdict s served.1.models place m served.2 := by
  intro served
  have hserved : Occurs (served.1.scope s) ⟨{}, []⟩ :=
    occurs_serve (occurs_session s c qs) (.tryGet id)
  have hconfig : served.1.config.strict = true := by
    rw [config_serve, config_serveAll]
    exact hstrict
  obtain ⟨m, hm, hid⟩ :=
    getElem?_of_position? (position?_serve (occurs_session s c qs) (.tryGet id))
  have hmodel : m.id = id := hid
  have hverdict := verdict_of_getElem? hserved hm hconfig
  rw [hmodel] at hverdict
  exact ⟨_, m, hm, hmodel, hverdict⟩

/-- Records with a badge that they take over from an embedded model. -/
def badges : Schema :=
  { declarations :=
      [{ name := "Record"
         fields :=
          [{ name := "Id", type := .scalar "i64" },
           { name := "Base", type := .model 1, annotation := { mapping := "embedded" } }] },
       { name := "Base"
         fields := [{ name := "Badge", type := .model 2 }] },
       { name := "Label"
         fields := [{ name := "Id", type := .scalar "i64" }] }] }

theorem tryGet_session_badges :
    let strict : Config := { strict := true }
    let served := (serveAll badges { config := strict } [.get 2]).serve badges (.tryGet 1)
    strict.strict = true ∧ ∃ place m, served.1.models[place]? = some m ∧ m.id = 1 ∧
      Verdict badges served.1.models place m served.2 :=
  ⟨rfl, tryGet_session badges { strict := true } [.get 2] 1 rfl⟩

/-- The record is answered although its badge is not settled. -/
theorem tryGet_unsettled_badges :
    let served := (serveAll badges { config := { strict := true } } []).serve badges (.tryGet 0)
    ∃ m, served.1.models[2]? = some m ∧ served.2 = .model 2 ∧
      ∃ x ∈ m.fields, x.path = ["Base", "Badge"] ∧ x.isIgnored = false ∧ x.isStored = false ∧
        x.relationship? = none := by
  decide +kernel

end Registry
end RecordMapping
