import RecordMapping.Proofs.Session
import RecordMapping.Proofs.Relationships

/-!
Fields that are taken over.

What stands in the place of an embedding are the fields of another model, as that one could be read at
the time: those of its slots if it was open, and those that it publishes if it had ended.  A property of
the fields of models that passes from the fields which are taken over to the model that takes them
therefore holds of all models, also where they embed each other in a circle.
-/

namespace RecordMapping

open Resolution

namespace Resolution

/-- What a slot adds to its model: its own field, or the fields that some model has shown. -/
inductive Slot.Contributes (s : Schema) (Q : ModelId → List Field → Prop) (d : FieldDeclaration)
    (slot : Slot) : Prop
  | plain (hplain : ¬ s.Embeds d) (hfields : slot.fields = [slot.field])
  | embedded {t : ModelId} {xs : List Field} (hembeds : s.Embeds d) (ht : d.type.Holds t)
      (hxs : Q t xs) (hfields : slot.fields = xs.map (·.within d.name))

/-- What the slots of the frame have taken over has the property. -/
def Frame.Nests (s : Schema) (Q : ModelId → List Field → Prop) (f : Frame) : Prop :=
  ∀ (i : Nat) (d : FieldDeclaration) (slot : Slot), (s.exported f.id)[i]? = some d →
    f.slots[i]? = some slot → ∀ xs, slot.expansion? = some xs →
      ∃ t ys, d.type.Holds t ∧ Q t ys ∧ xs = ys.map (·.within d.name)

/-- A property of the fields that a model shows, be it open or not.  No mark changes it, and a model that
has ended gets it from the models that it has taken fields over from. -/
structure Hereditary (s : Schema) (Q : ModelId → List Field → Prop) : Prop where
  marks : ∀ id xs ys, xs.map Field.unmarked = ys.map Field.unmarked → Q id xs → Q id ys
  opened : ∀ known f k, Progress s known f k → Q f.id (f.slots.map (·.field))
  ended : ∀ known f, Progress s known f (s.exported f.id).length →
    List.Forall₂ (fun d slot => slot.Follows d ∧ slot.Contributes s Q d) (s.exported f.id) f.slots →
      Q f.id f.fields

section

variable {s : Schema} {Q : ModelId → List Field → Prop} {known : Model → Prop} {f : Frame} {k i : Nat}
  {d : FieldDeclaration} {slot : Slot}

theorem Progress.nests_settle {v : View} (h : Progress s known f k) (hn : f.Nests s Q)
    (hd : (s.exported f.id)[k]? = some d) (hv : Readable s known f.id d.target? v)
    (hQ : ∀ t, d.target? = some t → s.isRecord t = true → Q t v.fields) :
    (f.settle s k v).Nests s Q := by
  intro i d' slot hd' hslot xs hxs
  rw [Frame.settle_id] at hd'
  obtain ⟨slot₀, hslot₀, ⟨rfl, -⟩ | ⟨rfl, hignored, rfl⟩⟩ := Frame.slots_settle_inv hslot
  · exact hn i d' slot hd' hslot₀ xs hxs
  · obtain rfl : d = d' := Option.some.inj (hd.symm.trans hd')
    have hfollows := h.follows hd hslot₀
    rw [((h.isFresh hslot₀ (Or.inl (Nat.le_refl k))).shows _ _ _).expansion] at hxs
    split at hxs
    · next houtcome =>
      obtain ⟨hincluded, -, t, ht, hrecord⟩ :=
        (finding_outcome_eq_embedded_iff hfollows hignored hv).mp houtcome
      have htarget := FieldDeclaration.target?_eq_some_iff.mpr ⟨hincluded, .one ht⟩
      refine ⟨t, v.fields, .one ht, hQ t htarget hrecord, ?_⟩
      rw [← Option.some.inj hxs, (hfollows.conclude _ _ _).name]
    · exact absurd hxs.symm (Option.some_ne_none xs)

/-- Once all slots are settled, a slot is an embedding as its declaration says. -/
theorem Progress.contributes (h : Progress s known f (s.exported f.id).length) (hn : f.Nests s Q)
    (hd : (s.exported f.id)[i]? = some d) (hslot : f.slots[i]? = some slot) :
    slot.Contributes s Q d := by
  cases hexpansion : slot.expansion? with
  | none =>
    have hfields : slot.fields = [slot.field] := by rw [Slot.fields, hexpansion]; rfl
    exact .plain (h.not_embeds hd hslot hexpansion) hfields
  | some xs =>
    have hembeds := h.embeds_of_expansion hd hslot (by rw [hexpansion]; exact Option.some_ne_none xs)
    obtain ⟨t, ys, ht, hys, rfl⟩ := hn i d slot hd hslot xs hexpansion
    exact .embedded hembeds ht hys (by rw [Slot.fields, hexpansion]; rfl)

variable (hQ : Hereditary s Q)

include hQ

theorem Hereditary.fields (h : Progress s known f (s.exported f.id).length) (hn : f.Nests s Q) :
    Q f.id f.fields := by
  apply hQ.ended known f h
  apply forall₂_of_getElem? h.length_slots.symm
  intro i d slot hd hslot
  exact ⟨h.follows hd hslot, h.contributes hn hd hslot⟩

/-- By induction on the frame and on the frames that it has been settled from. -/
theorem Hereditary.nests (h : Progress s known f k) : f.Nests s Q := by
  induction h with
  | start hr =>
    intro i d slot hd hslot xs hxs
    rw [Frame.slots_ofDeclarations_inv hd hslot] at hxs
    exact absurd hxs.symm (Option.some_ne_none xs)
  | mark j hf ih =>
    intro i d slot hd hslot
    obtain ⟨slot₀, hslot₀, rfl | rfl⟩ := Frame.slots_mark_inv hslot
    · exact ih i d slot hd hslot₀
    · exact ih i d slot₀ hd hslot₀
  | alone v hf hd ht ih =>
    refine hf.nests_settle ih hd (by rw [ht]; exact .alone v) ?_
    intro t htarget
    rw [ht] at htarget
    contradiction
  | opened hf hd hg ht ih _ =>
    refine hf.nests_settle ih hd (by rw [ht]; exact .opened hg) ?_
    intro t htarget _
    obtain rfl := Option.some.inj (ht.symm.trans htarget)
    exact hQ.opened _ _ _ hg
  | @finished f g k d m tableName hf hd hg ht hne hm hgm ih ihg =>
    refine hf.nests_settle ih hd (by rw [ht]; exact .finished hg hne hm hgm) ?_
    intro t htarget _
    obtain rfl := Option.some.inj (ht.symm.trans htarget)
    have hfields : m.fields.map Field.unmarked = g.fields.map Field.unmarked :=
      congrArg Model.fields hgm
    exact hQ.marks _ _ _ hfields.symm (hQ.fields hg ihg)
  | blank hf hd ht hr ih =>
    refine hf.nests_settle ih hd (by rw [ht]; exact .blank hr) ?_
    intro t htarget hrecord
    obtain rfl := Option.some.inj (ht.symm.trans htarget)
    rw [hr] at hrecord
    contradiction

theorem Hereditary.of_made {m : Model} (h : Made s known m) (hrec : m.isRecord = true) :
    Q m.id m.fields := by
  cases h with
  | @record f tableName hf hmade =>
    have hid : m.id = f.id := congrArg Model.id hmade
    have hfields : m.fields.map Field.unmarked = f.fields.map Field.unmarked :=
      congrArg Model.fields hmade
    rw [hid]
    exact hQ.marks _ _ _ hfields.symm (hQ.fields hf (hQ.nests hf))
  | blank _ hblank =>
    rw [Model.eq_blank_of_unmarked hblank] at hrec
    contradiction

/-- A hereditary property holds of every record that is stored. -/
theorem Hereditary.of_mem {r : Registry} (hr : Occurs (r.scope s) ⟨{}, []⟩) {m : Model}
    (hm : m ∈ r.models) (hrec : m.isRecord = true) : Q m.id m.fields :=
  hQ.of_made (hr.traced.of_has hm) hrec

end

/-- A property of single fields is hereditary if the fields of a model's own have it, and those have it
that are reached through an embedding from fields that have it. -/
theorem Hereditary.of_field {s : Schema} {P : ModelId → Field → Prop}
    (hmarks : ∀ id x, P id x.unmarked ↔ P id x)
    (hown : ∀ {known : Model → Prop} {f : Frame} {k i : Nat} {d : FieldDeclaration} {slot : Slot},
      Progress s known f k → (s.exported f.id)[i]? = some d → f.slots[i]? = some slot →
        P f.id slot.field)
    (hwithin : ∀ {id t : ModelId} {d : FieldDeclaration} {x : Field}, d ∈ s.exported id →
      s.Embeds d → d.type.Holds t → P t x → P id (x.within d.name)) :
    Hereditary s fun id xs => ∀ x ∈ xs, P id x := by
  refine ⟨?_, ?_, ?_⟩
  · intro id xs ys hxy hxs y hy
    obtain ⟨x, hx, hxunmarked⟩ := List.mem_map.mp (hxy ▸ List.mem_map_of_mem hy)
    rw [← hmarks, ← hxunmarked, hmarks]
    exact hxs x hx
  · intro known f k h x hx
    obtain ⟨slot, hmem, rfl⟩ := List.mem_map.mp hx
    obtain ⟨i, hslot⟩ := List.getElem?_of_mem hmem
    obtain ⟨d, hd, -⟩ := h.exists_declaration hslot
    exact hown h hd hslot
  · intro known f h hslots x hx
    obtain ⟨slot, hmem, hx⟩ := List.mem_flatMap.mp hx
    obtain ⟨i, hslot⟩ := List.getElem?_of_mem hmem
    obtain ⟨d, hd, -⟩ := h.exists_declaration hslot
    cases (getElem?_of_forall₂ hslots hd hslot).2 with
    | plain hplain hfields =>
      rw [hfields, List.mem_singleton] at hx
      rw [hx]
      exact hown h hd hslot
    | embedded hembeds ht hxs hfields =>
      rw [hfields] at hx
      obtain ⟨y, hy, rfl⟩ := List.mem_map.mp hx
      exact hwithin (List.mem_of_getElem? hd) hembeds ht (hxs y hy)

end Resolution
end RecordMapping
