import RecordMapping.Proofs.Resolution.Trace
import RecordMapping.Proofs.Rule

/-!
Relationships come from declarations.

Whatever requests came before, and in whatever order the models were resolved, the relationship of a
field is the one that the rule reads off the declarations.  A model that is open, finished or stored
looks the same to the rule, since all that it reads was fixed when the model was entered.  Only a target
that embeds other models may look different later, and only to others.
-/

namespace RecordMapping

open Resolution

/-- The model declares the field itself. -/
def Field.IsOwn (f : Field) : Prop := f.path.length = 1

/-! ## What a field contributes -/

/-- The rule applies to a field that holds records of the target and is not replaced by them, if the
target is the owner itself or embeds no other model. -/
structure Schema.Applies (s : Schema) (owner target : ModelId) (d : FieldDeclaration) : Prop where
  included : d.annotation.isExcluded = false
  holds : d.type.Holds target
  record : s.isRecord target = true
  plain : ¬ s.Embeds d
  target : target = owner ∨ s.IsFlat target

/-- The share of a declared field.  It is the field alone, or the fields that an embedding reaches.  Where
the rule applies, the share has what the rule decides, be it a relationship or an entry for the key
that is missing. -/
structure Share.Of (s : Schema) (owner : ModelId) (d : FieldDeclaration) (share : Share) :
    Prop where
  plain : ¬ s.Embeds d → ∃ f, share.fields = [f] ∧ f.name = d.name ∧ f.path = [d.name]
  embedded : s.Embeds d → share.unresolved? = none ∧
    ∀ f ∈ share.fields, ∃ rest, rest ≠ [] ∧ f.path = d.name :: rest
  entry : ∀ u, share.unresolved? = some u → u.field = d.name
  decided : ∀ target, s.Applies owner target d →
    (∀ f ∈ share.fields, f.relationship? = s.relationship? owner target d) ∧
      share.unresolved? = (s.decision owner target d).unresolved? d.name

namespace Resolution

/-- Fields that are those of some slots, apart from marks, are put together from shares. -/
theorem exists_shares (owner : String) {fields : List Field} {slots : List Slot}
    (h : fields.map Field.unmarked = (slots.flatMap Slot.fields).map Field.unmarked) :
    ∃ shares : List Share, fields = shares.flatMap (·.fields) ∧
      slots.filterMap (Slot.unresolved? owner) = shares.filterMap (·.unresolved?) ∧
      List.Forall₂ (fun slot share =>
        share.fields.map Field.unmarked = slot.fields.map Field.unmarked ∧
          share.unresolved? = slot.unresolved? owner) slots shares := by
  induction slots generalizing fields with
  | nil => exact ⟨[], List.map_eq_nil_iff.mp h, rfl, .nil⟩
  | cons slot slots ih =>
    rw [List.flatMap_cons, List.map_append, List.map_eq_append_iff] at h
    obtain ⟨own, rest, rfl, hown, hrest⟩ := h
    obtain ⟨shares, rfl, hunresolved, hshares⟩ := ih hrest
    refine ⟨⟨own, slot.unresolved? owner⟩ :: shares, rfl, ?_, .cons ⟨hown, rfl⟩ hshares⟩
    rw [List.filterMap_cons, List.filterMap_cons, hunresolved]

section

variable {s : Schema} {known : Model → Prop} {f : Frame} {i k : Nat} {d : FieldDeclaration}
  {slot : Slot} {share : Share}

theorem agrees_of_applies {target : ModelId} {v : View} (h : s.Applies f.id target d)
    (ho : s.isRecord f.id = true) (hv : Readable s known f.id d.target? v) :
    (declaredFinding s f.id d v).Agrees f.id target (s.pair? target d)
      (s.decision f.id target d) := by
  have ht : d.target? = some target :=
    FieldDeclaration.target?_eq_some_iff.mpr ⟨h.included, h.holds⟩
  rw [ht] at hv
  rw [declaredFinding_eq h.holds (hv.alike h.target)]
  exact find_declared h.included h.holds ho h.record h.plain

theorem Progress.fields_of_not_embeds {fields : List Field} (h : Progress s known f k)
    (hd : (s.exported f.id)[i]? = some d) (hslot : f.slots[i]? = some slot)
    (hfields : fields.map Field.unmarked = slot.fields.map Field.unmarked)
    (hplain : ¬ s.Embeds d) : ∃ x, fields = [x] ∧ x.unmarked = slot.field.unmarked := by
  have hexpansion : slot.expansion? = none := by
    by_contra hne
    exact hplain (h.embeds_of_expansion hd hslot hne)
  rw [Slot.fields, hexpansion] at hfields
  exact List.map_eq_singleton_iff.mp hfields

/-- An embedding that is settled is not open, and what takes its place is reached through it. -/
theorem Progress.fields_of_embeds {fields : List Field} (h : Progress s known f k) (hi : i < k)
    (hd : (s.exported f.id)[i]? = some d) (hslot : f.slots[i]? = some slot)
    (hfields : fields.map Field.unmarked = slot.fields.map Field.unmarked)
    (hembeds : s.Embeds d) :
    slot.unresolved? (s.name f.id) = none ∧
      ∀ x ∈ fields, ∃ rest, rest ≠ [] ∧ x.path = d.name :: rest := by
  have hfollows := h.follows hd hslot
  obtain ⟨v, hv, hshows⟩ := h.settled hi hd hembeds.1 hslot
  have houtcome : (declaredFinding s f.id d v).outcome = .embedded := by
    rw [← h.finding_eq hfollows]
    exact (finding_outcome_eq_embedded_iff hfollows (hfollows.isIgnored.trans hembeds.1) hv).mpr
      hembeds
  refine ⟨?_, ?_⟩
  · rw [hfollows.unresolved? hembeds.1 hshows, houtcome]
    rfl
  · intro x hx
    have hx' : x.unmarked ∈ slot.fields.map Field.unmarked := by
      rw [← hfields]
      exact List.mem_map_of_mem hx
    rw [Slot.fields, hshows.expansion, if_pos houtcome] at hx'
    obtain ⟨y, hy, hyx⟩ := List.mem_map.mp hx'
    obtain ⟨z, hz, rfl⟩ := List.mem_map.mp hy
    obtain ⟨t, ht, -⟩ := hembeds.2.2
    rw [FieldDeclaration.target?_eq_some_iff.mpr ⟨hembeds.1, .one ht⟩] at hv
    refine ⟨z.path, hv.path_ne_nil hz, ?_⟩
    show x.unmarked.path = _
    rw [← hyx, ← hfollows.name]
    rfl

theorem Slot.Follows.isOwn (h : slot.Follows d) : slot.field.IsOwn := by
  rw [Field.IsOwn, h.path]
  rfl

/-- What is taken over is not the model's own. -/
theorem Progress.not_isOwn_of_expansion (h : Progress s known f (s.exported f.id).length)
    (hslot : f.slots[i]? = some slot) (hexpansion : slot.expansion? ≠ none) {x : Field}
    (hx : x ∈ slot.fields) : ¬ x.IsOwn := by
  obtain ⟨d, hd, -⟩ := h.exists_declaration hslot
  have hlt : i < (s.exported f.id).length := (List.getElem?_eq_some_iff.mp hd).1
  have hembeds := h.embeds_of_expansion hd hslot hexpansion
  obtain ⟨rest, hrest, hpath⟩ := (h.fields_of_embeds hlt hd hslot rfl hembeds).2 x hx
  rw [Field.IsOwn, hpath, List.length_cons]
  intro hlength
  exact hrest (List.eq_nil_of_length_eq_zero (by omega))

/-- Once all slots are settled, what has taken nothing over is no embedding. -/
theorem Progress.not_embeds (h : Progress s known f (s.exported f.id).length)
    (hd : (s.exported f.id)[i]? = some d) (hslot : f.slots[i]? = some slot)
    (hexpansion : slot.expansion? = none) : ¬ s.Embeds d := by
  intro hembeds
  have hlt := (List.getElem?_eq_some_iff.mp hd).1
  have hmem : slot.field ∈ slot.fields := by simp [Slot.fields, hexpansion]
  obtain ⟨rest, hrest, hpath⟩ :=
    (h.fields_of_embeds hlt hd hslot rfl hembeds).2 slot.field hmem
  rw [(h.follows hd hslot).path] at hpath
  exact hrest (List.cons.inj hpath).2.symm

/-- A field of the model's own stands in its slot. -/
theorem Progress.slot_of_isOwn (h : Progress s known f (s.exported f.id).length) {x : Field}
    (hx : x ∈ f.fields) (hown : x.IsOwn) :
    ∃ (i : Nat) (d : FieldDeclaration) (slot : Slot), (s.exported f.id)[i]? = some d ∧
      f.slots[i]? = some slot ∧ slot.expansion? = none ∧ x = slot.field := by
  obtain ⟨slot, hmem, hx⟩ := List.mem_flatMap.mp hx
  obtain ⟨i, hslot⟩ := List.getElem?_of_mem hmem
  obtain ⟨d, hd, -⟩ := h.exists_declaration hslot
  have hexpansion : slot.expansion? = none := by
    by_contra hne
    exact h.not_isOwn_of_expansion hslot hne hx hown
  rw [Slot.fields, hexpansion] at hx
  exact ⟨i, d, slot, hd, hslot, hexpansion, List.mem_singleton.mp hx⟩

/-- A field of a finished model's own is that of a slot, apart from marks. -/
theorem Progress.slot_of_mem {m : Model} {tableName : String} {x : Field}
    (h : Progress s known f (s.exported f.id).length)
    (hm : m.unmarked = (f.toModel tableName).unmarked) (hx : x ∈ m.fields) (hown : x.IsOwn) :
    ∃ (i : Nat) (d : FieldDeclaration) (slot : Slot), (s.exported f.id)[i]? = some d ∧
      f.slots[i]? = some slot ∧ slot.expansion? = none ∧ x.unmarked = slot.field.unmarked := by
  have hfields : m.fields.map Field.unmarked = f.fields.map Field.unmarked :=
    congrArg Model.fields hm
  obtain ⟨y, hy, hyx⟩ := List.mem_map.mp (hfields ▸ List.mem_map_of_mem hx)
  have hyown : y.IsOwn := by
    show y.unmarked.path.length = 1
    rw [hyx]
    exact hown
  obtain ⟨i, d, slot, hd, hslot, hexpansion, rfl⟩ := h.slot_of_isOwn hy hyown
  exact ⟨i, d, slot, hd, hslot, hexpansion, hyx.symm⟩

/-- The slots of a finished frame give the shares of the declared fields. -/
theorem Progress.share_of (h : Progress s known f (s.exported f.id).length)
    (hd : (s.exported f.id)[i]? = some d) (hslot : f.slots[i]? = some slot)
    (hfields : share.fields.map Field.unmarked = slot.fields.map Field.unmarked)
    (hopen : share.unresolved? = slot.unresolved? (s.name f.id)) : share.Of s f.id d := by
  have hfollows := h.follows hd hslot
  have hlt : i < (s.exported f.id).length := (List.getElem?_eq_some_iff.mp hd).1
  have hsingle := h.fields_of_not_embeds hd hslot hfields
  refine ⟨?_, ?_, ?_, ?_⟩
  · intro hplain
    obtain ⟨x, hx, hxslot⟩ := hsingle hplain
    have hname : x.unmarked.name = d.name := by rw [hxslot]; exact hfollows.name
    have hpath : x.unmarked.path = [d.name] := by rw [hxslot]; exact hfollows.path
    exact ⟨x, hx, hname, hpath⟩
  · intro hembeds
    rw [hopen]
    exact h.fields_of_embeds hlt hd hslot hfields hembeds
  · intro u hu
    rw [hopen] at hu
    rw [Slot.field_of_unresolved? hu, hfollows.name]
  · intro target happlies
    obtain ⟨v, hv, hshows⟩ := h.settled hlt hd happlies.included hslot
    have hagrees := agrees_of_applies happlies h.isRecord hv
    refine ⟨?_, ?_⟩
    · intro x hx
      obtain ⟨y, hy, hyslot⟩ := hsingle happlies.plain
      rw [hy, List.mem_singleton] at hx
      show x.unmarked.relationship? = _
      rw [hx, hyslot]
      exact hshows.relationship.trans hagrees.relationship
    · rw [hopen, hfollows.unresolved? happlies.included hshows]
      exact hagrees.unresolved d.name

theorem Progress.unresolved_eq (h : Progress s known f (s.exported f.id).length) :
    f.unresolved = f.slots.filterMap (Slot.unresolved? (s.name f.id)) := by
  have hunresolved := h.unresolved
  rwa [List.take_of_length_le (Nat.le_of_eq h.length_slots)] at hunresolved

/-- A model that was made from a finished frame consists of one share for each declared field, and the
share is what its slot contributes. -/
theorem Progress.shares_of {R : FieldDeclaration → Share → Prop}
    (h : Progress s known f (s.exported f.id).length) {m : Model} {tableName : String}
    (hm : m.unmarked = (f.toModel tableName).unmarked)
    (hR : ∀ (i : Nat) (d : FieldDeclaration) (slot : Slot) (share : Share),
      (s.exported f.id)[i]? = some d → f.slots[i]? = some slot →
      share.fields.map Field.unmarked = slot.fields.map Field.unmarked →
      share.unresolved? = slot.unresolved? (s.name f.id) → R d share) :
    ∃ shares, m.ComposedOf shares ∧ List.Forall₂ R (s.exported m.id) shares := by
  have hid : m.id = f.id := congrArg Model.id hm
  have hfields : m.fields.map Field.unmarked = f.fields.map Field.unmarked :=
    congrArg Model.fields hm
  have hunresolved : m.unresolved = f.unresolved := congrArg Model.unresolved hm
  obtain ⟨shares, hshares, hentries, hforall⟩ := exists_shares (s.name f.id) hfields
  refine ⟨shares, ⟨hshares, hunresolved.trans (h.unresolved_eq.trans hentries)⟩, ?_⟩
  rw [hid]
  apply forall₂_of_getElem? (h.length_slots.symm.trans hforall.length_eq)
  intro i d share hd hshare
  obtain ⟨slot, hslot, -⟩ := h.exists_slot hd
  obtain ⟨hown, hopen⟩ := getElem?_of_forall₂ hforall hslot hshare
  exact hR i d slot share hd hslot hown hopen

theorem Progress.shares (h : Progress s known f (s.exported f.id).length) {m : Model}
    {tableName : String} (hm : m.unmarked = (f.toModel tableName).unmarked) :
    ∃ shares, m.ComposedOf shares ∧ List.Forall₂ (Share.Of s m.id) (s.exported m.id) shares := by
  have hid : m.id = f.id := congrArg Model.id hm
  apply h.shares_of hm
  intro i d slot share hd hslot hown hopen
  rw [hid]
  exact h.share_of hd hslot hown hopen

end

end Resolution

namespace Registry

/-- After any session, a stored record consists of the shares of its declared fields, and so has the
relationships that the rule reads off the declarations. -/
theorem shares_session (s : Schema) (c : Config) (qs : List Request) (m : Model)
    (hm : m ∈ (serveAll s { config := c } qs).models) (hr : m.isRecord = true) :
    ∃ shares, m.ComposedOf shares ∧ List.Forall₂ (Share.Of s m.id) (s.exported m.id) shares := by
  have htraced := (occurs_session s c qs).traced
  cases htraced.of_has hm with
  | record hf hmade => exact hf.shares hmade
  | blank _ hblank =>
    rw [Model.eq_blank_of_unmarked hblank] at hr
    contradiction

/-- Users consist of a column and a relationship. -/
theorem shares_session_users :
    ∃ m ∈ (serveAll emails {} [.get 0]).models, m.id = 0 ∧ m.isRecord = true ∧
      ∃ shares, m.ComposedOf shares ∧
        List.Forall₂ (Share.Of emails m.id) (emails.exported m.id) shares := by
  have hmodel : ((serveAll emails {} [.get 0]).models[1]?.map fun m => (m.id, m.isRecord)) =
      some (0, true) := by decide +kernel
  obtain ⟨m, hm, heq⟩ := Option.map_eq_some_iff.mp hmodel
  obtain ⟨hid, hr⟩ := Prod.mk.inj heq
  have hmem := List.mem_of_getElem? hm
  exact ⟨m, hmem, hid, hr, shares_session emails {} [.get 0] m hmem hr⟩

end Registry
end RecordMapping
