import RecordMapping.Proofs.Relationships
import RecordMapping.Proofs.Resolution.Chronicle

/-!
What takes the place of an embedding.

A model that is embedded is copied field by field.  The copy is faithful if the model's resolution has
ended by then, whichever request or reference it was reached by.  This is always so unless it refers
back to the model that embeds it.  A model that is still open is copied as far as it has been settled, and
all that is certain of such a copy is what was declared.

Without references back, what holds of the fields that each model declares itself holds of all fields.
-/

namespace RecordMapping

open Resolution

/-- The share of an embedding in a model at place `i`, copied from the model `b` at place `j`.  Marks are
left out. -/
structure Share.Copies (s : Schema) (i : Nat) (owner : ModelId) (d : FieldDeclaration) (share : Share)
    (j : Nat) (b : Model) : Prop where
  holds : d.type.Holds b.id
  earlier : ¬ s.Reaches b.id owner → j < i
  faithful : j < i →
    share.fields.map Field.unmarked = b.fields.map fun f => (f.within d.name).unmarked
  declared : i ≤ j → share.fields.map Field.skeleton =
    (s.exported b.id).map fun e => (Field.ofDeclaration e).within d.name

/-- The share of a declared field is the field itself, or what takes its place if it is an embedding. -/
structure Share.Expands (s : Schema) (models : List Model) (i : Nat) (owner : ModelId)
    (d : FieldDeclaration) (share : Share) : Prop where
  plain : ¬ s.Embeds d → ∃ f, share.fields = [f] ∧ f.path = [d.name]
  embedded : s.Embeds d → ∃ j b, models[j]? = some b ∧ share.Copies s i owner d j b

/-- The field apart from the way to it and from marks. -/
def Field.core (f : Field) : Field := { f with path := [], isForeignKey := false }

/-- The model takes over the fields of another one. -/
def Schema.Absorbs (s : Schema) (a b : ModelId) : Prop :=
  ∃ d ∈ s.exported a, s.Embeds d ∧ d.type.Holds b

/-- No model that is absorbed, directly or over others, refers back to the one that absorbs it. -/
def Schema.AbsorbsForward (s : Schema) (id : ModelId) : Prop :=
  ∀ a b, Relation.ReflTransGen s.Absorbs id a → s.Absorbs a b → ¬ s.Reaches b a

theorem Schema.AbsorbsForward.of_absorbs {s : Schema} {a b : ModelId} (h : s.AbsorbsForward a)
    (hab : s.Absorbs a b) : s.AbsorbsForward b := fun c d hbc => h c d (.head hab hbc)

theorem Share.Copies.map_core {s : Schema} {i j : Nat} {owner : ModelId} {d : FieldDeclaration}
    {share : Share} {b : Model} (h : share.Copies s i owner d j b) (hlt : j < i) :
    share.fields.map Field.core = b.fields.map Field.core := by
  have hunmarked : share.fields.map Field.unmarked =
      (b.fields.map (·.within d.name)).map Field.unmarked := by
    rw [h.faithful hlt, List.map_map]
    rfl
  calc share.fields.map Field.core
    _ = (b.fields.map (·.within d.name)).map Field.core :=
      Field.map_congr_of_unmarked (fun _ => rfl) hunmarked
    _ = b.fields.map Field.core := List.map_map

namespace Resolution

section

variable {s : Schema} {before : List Model} {opened : List ModelId} {f : Frame} {i k : Nat}
  {d : FieldDeclaration} {slot : Slot} {t : ModelId}

theorem declaredFinding_outcome_eq_embedded_iff {v : View} (ht : d.target? = some t)
    (hv : v.isRecord = s.isRecord t) (owner : ModelId) :
    (declaredFinding s owner d v).outcome = .embedded ↔ s.Embeds d := by
  obtain ⟨hincluded, hheld⟩ := FieldDeclaration.target?_eq_some_iff.mp ht
  rw [declaredFinding, find_outcome_eq_embedded_iff, Field.settings_ofDeclaration hincluded,
    Bool.or_eq_true]
  constructor
  · rintro ⟨u, hrole, hrecord, hembeds⟩
    have hpresent : d.type.present = .model u := FieldType.role_eq_one_iff.mp hrole
    obtain rfl : u = t := FieldType.Holds.unique (.one hpresent) hheld
    exact ⟨hincluded, hembeds, u, hpresent, hv.symm.trans hrecord⟩
  · rintro ⟨-, hembeds, u, hpresent, hrecord⟩
    obtain rfl : u = t := FieldType.Holds.unique (.one hpresent) hheld
    exact ⟨u, FieldType.role_eq_one_iff.mpr hpresent, hv.trans hrecord, hembeds⟩

/-- An embedding that is settled is replaced by the fields that could be read. -/
theorem Sourced.expansion (h : Sourced s before opened f k) (hi : i < k)
    (hd : (s.exported f.id)[i]? = some d) (hslot : f.slots[i]? = some slot)
    (hfollows : slot.Follows d) (hembeds : s.Embeds d) (ht : d.target? = some t) :
    ∃ v, Origin s before opened t v ∧ slot.fields = v.fields.map (·.within d.name) := by
  obtain ⟨v, hv, hshows⟩ := h i d slot t hi hd hslot ht
  have houtcome := (declaredFinding_outcome_eq_embedded_iff ht hv.isRecord f.id).mpr hembeds
  refine ⟨v, hv, ?_⟩
  rw [Slot.fields, hshows.expansion, if_pos houtcome, hfollows.name]
  rfl

/-- An open model shows what it declares, whatever has been settled of it. -/
theorem Progress.skeleton_view {known : Model → Prop} (h : Progress s known f k) :
    f.view.fields.map Field.skeleton = (s.exported f.id).map Field.ofDeclaration := by
  show (f.slots.map (·.field)).map Field.skeleton = _
  rw [List.map_map]
  exact map_eq_of_forall₂ (h.forall₂_follows.imp fun _ _ hslot => hslot.field)

end

end Resolution

namespace Registry

/-- An embedding in the model at place `i` is a copy of a model at an earlier place, or of one that was
open. -/
theorem copies_of_origin {s : Schema} {r : Registry} (hr : Occurs (r.scope s) ⟨{}, []⟩) {i : Nat}
    {a : Model} (ha : r.models[i]? = some a) {opened : List ModelId}
    (hopened : ∀ t ∈ opened,
      s.Reaches t a.id ∧ t ∉ ((r.models.take i).map Model.unmarked).map (·.id))
    {d : FieldDeclaration} {t : ModelId} (href : s.Refers a.id t) (hheld : d.type.Holds t) {v : View}
    (hv : Origin s ((r.models.take i).map Model.unmarked) opened t v) {share : Share}
    (hshare : share.fields.map Field.unmarked =
      (v.fields.map (·.within d.name)).map Field.unmarked) :
    ∃ j b, r.models[j]? = some b ∧ share.Copies s i a.id d j b := by
  obtain ⟨j, b, hb, rfl, ⟨hlt, m, rfl, hbm⟩ | ⟨hge, hreach, g, k, hg, hid, rfl⟩⟩ :=
    place_of_origin hr ha hopened href hv
  · refine ⟨j, b, hb, hheld, fun _ => hlt, ?_, fun hge => absurd hlt (Nat.not_lt_of_le hge)⟩
    intro _
    have hfields : m.fields.map Field.unmarked = b.fields.map Field.unmarked :=
      congrArg Model.fields hbm
    calc share.fields.map Field.unmarked
      _ = (m.fields.map (·.within d.name)).map Field.unmarked := hshare
      _ = m.fields.map fun f => (f.within d.name).unmarked := List.map_map
      _ = b.fields.map fun f => (f.within d.name).unmarked :=
        Field.map_congr_of_unmarked (fun _ => rfl) hfields
  · refine ⟨j, b, hb, hheld, fun hno => absurd hreach hno,
      fun hlt => absurd hlt (Nat.not_lt_of_le hge), ?_⟩
    intro _
    rw [← hid]
    calc share.fields.map Field.skeleton
      _ = (g.view.fields.map (·.within d.name)).map Field.skeleton :=
        Field.map_congr_of_unmarked (fun _ => rfl) hshare
      _ = (g.view.fields.map Field.skeleton).map (·.within d.name) := by
        rw [List.map_map, List.map_map]
        rfl
      _ = (s.exported g.id).map fun e => (Field.ofDeclaration e).within d.name := by
        rw [hg.skeleton_view, List.map_map]
        rfl

section

variable {s : Schema} {r : Registry} (hr : Occurs (r.scope s) ⟨{}, []⟩)

include hr

theorem exists_expands {i : Nat} {a : Model} (ha : r.models[i]? = some a) (hrec : a.isRecord = true) :
    ∃ shares, a.ComposedOf shares ∧
      List.Forall₂ (Share.Expands s r.models i a.id) (s.exported a.id) shares := by
  cases entry_of_getElem? hr ha with
  | blank _ hblank =>
    rw [Model.eq_blank_of_unmarked hblank] at hrec
    contradiction
  | @record f tableName opened hf hs hopened hmade =>
    have hid : a.id = f.id := congrArg Model.id hmade
    apply hf.shares_of hmade
    intro k d slot share hd hslot hown _
    have hfollows := hf.follows hd hslot
    refine ⟨?_, ?_⟩
    · intro hplain
      obtain ⟨x, hx, hxslot⟩ := hf.fields_of_not_embeds hd hslot hown hplain
      have hpath : x.unmarked.path = [d.name] := by rw [hxslot]; exact hfollows.path
      exact ⟨x, hx, hpath⟩
    · intro hembeds
      obtain ⟨t, hpresent, -⟩ := hembeds.2.2
      have ht : d.target? = some t :=
        FieldDeclaration.target?_eq_some_iff.mpr ⟨hembeds.1, .one hpresent⟩
      have hlt := (List.getElem?_eq_some_iff.mp hd).1
      obtain ⟨v, hv, hfields⟩ := hs.expansion hlt hd hslot hfollows hembeds ht
      rw [hfields] at hown
      have href : s.Refers a.id t := by
        rw [hid]
        exact Schema.refers_of_target? hf.isRecord hd ht
      exact copies_of_origin hr ha (by rw [hid]; exact hopened) href (.one hpresent) hv hown

end

/-- After any session, a stored record consists of its own fields and, for each embedding, of the fields
of the model that it holds.  They are what that model has if it comes first, as it does unless it refers
back. -/
theorem expands_session (s : Schema) (c : Config) (qs : List Request) (i : Nat) (a : Model)
    (ha : (serveAll s { config := c } qs).models[i]? = some a) (hr : a.isRecord = true) :
    ∃ shares, a.ComposedOf shares ∧
      List.Forall₂ (Share.Expands s (serveAll s { config := c } qs).models i a.id)
        (s.exported a.id) shares :=
  exists_expands (occurs_session s c qs) ha hr

/-- Persons with an address, which refers back to its person. -/
def addresses : Schema :=
  let number : FieldType := .scalar "i64"
  { declarations :=
      [{ name := "Person"
         fields :=
          [{ name := "Id", type := number },
           { name := "Address", type := .model 1, annotation := { mapping := "embedded" } }] },
       { name := "Address"
         fields :=
          [{ name := "Street", type := .scalar "String" },
           { name := "Owner", type := .optional (.model 0) },
           { name := "OwnerId", type := number }] }] }

/-- A person that is asked for first comes behind the address, and has all of it. -/
theorem expands_session_addresses :
    ∃ a, (serveAll addresses {} [.get 0]).models[1]? = some a ∧ a.isRecord = true ∧
      ∃ shares, a.ComposedOf shares ∧
        List.Forall₂ (Share.Expands addresses (serveAll addresses {} [.get 0]).models 1 a.id)
          (addresses.exported a.id) shares := by
  have hmodel : ((serveAll addresses {} [.get 0]).models[1]?.map (·.isRecord)) = some true := by
    decide +kernel
  obtain ⟨a, ha, hr⟩ := Option.map_eq_some_iff.mp hmodel
  exact ⟨a, ha, hr, expands_session addresses {} [.get 0] 1 a ha hr⟩

/-- If the address is asked for first, the person takes over fields of it that are not settled. -/
theorem block_ne_addresses :
    ∃ a ∈ (serveAll addresses {} [.get 1, .get 0]).models,
      ∃ b ∈ (serveAll addresses {} [.get 1, .get 0]).models, a.id = 0 ∧ b.id = 1 ∧
        a.fields.map (·.path) =
          [["Id"], ["Address", "Street"], ["Address", "Owner"], ["Address", "OwnerId"]] ∧
        (a.fields.drop 1).map Field.unmarked ≠
          b.fields.map fun f => (f.within "Address").unmarked := by
  decide +kernel

/-! ## Models that are taken over -/

section

variable {s : Schema} {r : Registry} (hr : Occurs (r.scope s) ⟨{}, []⟩)

include hr

theorem isRecord_of_mem_fields {a : Model} (ha : a ∈ r.models) {x : Field} (hx : x ∈ a.fields) :
    a.isRecord = true := by
  cases hr.traced.of_has ha with
  | record _ hmade => exact congrArg Model.isRecord hmade
  | blank _ hblank => exact absurd hx (Model.not_mem_fields_of_unmarked hblank x)

theorem isRecord_of_absorbs {a : ModelId} {b : Model} (hb : b ∈ r.models)
    (hab : s.Absorbs a b.id) : b.isRecord = true := by
  obtain ⟨d, -, ⟨-, -, t, hpresent, hrec⟩, hheld⟩ := hab
  obtain rfl : t = b.id := FieldType.Holds.unique (.one hpresent) hheld
  exact (hr.traced.of_has hb).isRecord.trans hrec

/-- A model that is absorbed without referring back stands at an earlier place, and all its fields are
taken over. -/
theorem exists_of_absorbs {i : Nat} {a : Model} (ha : r.models[i]? = some a)
    (hrec : a.isRecord = true) {t : ModelId} (ht : s.Absorbs a.id t) (hback : ¬ s.Reaches t a.id) :
    ∃ j b, j < i ∧ r.models[j]? = some b ∧ b.id = t ∧
      ∀ y ∈ b.fields, ∃ x ∈ a.fields, x.core = y.core := by
  obtain ⟨shares, hcomposed, hshares⟩ := exists_expands hr ha hrec
  obtain ⟨d, hd, hembeds, hheld⟩ := ht
  obtain ⟨share, hshare, hexpands⟩ := exists_of_forall₂ hshares hd
  obtain ⟨j, b, hb, hcopies⟩ := hexpands.embedded hembeds
  obtain rfl : b.id = t := hcopies.holds.unique hheld
  have hlt := hcopies.earlier hback
  refine ⟨j, b, hlt, hb, rfl, ?_⟩
  intro y hy
  have hcore : y.core ∈ share.fields.map Field.core := by
    rw [hcopies.map_core hlt]
    exact List.mem_map_of_mem hy
  obtain ⟨x, hx, hxy⟩ := List.mem_map.mp hcore
  refine ⟨x, ?_, hxy⟩
  rw [hcomposed.fields]
  exact List.mem_flatMap.mpr ⟨share, hshare, hx⟩

theorem isOwn_or_of_absorbs {i : Nat} {a : Model} (ha : r.models[i]? = some a)
    (hforward : s.AbsorbsForward a.id) {x : Field} (hx : x ∈ a.fields) :
    x.IsOwn ∨ ∃ j b, j < i ∧ r.models[j]? = some b ∧ s.Absorbs a.id b.id ∧
      ∃ y ∈ b.fields, x.core = y.core := by
  have hrec := isRecord_of_mem_fields hr (List.mem_of_getElem? ha) hx
  obtain ⟨shares, hcomposed, hshares⟩ := exists_expands hr ha hrec
  rw [hcomposed.fields] at hx
  obtain ⟨share, hshare, hx⟩ := List.mem_flatMap.mp hx
  obtain ⟨d, hd, hexpands⟩ := exists_of_forall₂ hshares.flip hshare
  by_cases hembeds : s.Embeds d
  · right
    obtain ⟨j, b, hb, hcopies⟩ := hexpands.embedded hembeds
    have habsorbs : s.Absorbs a.id b.id := ⟨d, hd, hembeds, hcopies.holds⟩
    have hlt := hcopies.earlier (hforward a.id b.id .refl habsorbs)
    have hcore : x.core ∈ b.fields.map Field.core := by
      rw [← hcopies.map_core hlt]
      exact List.mem_map_of_mem hx
    obtain ⟨y, hy, hyx⟩ := List.mem_map.mp hcore
    exact ⟨j, b, hlt, hb, habsorbs, y, hy, hyx.symm⟩
  · left
    obtain ⟨f, hf, hpath⟩ := hexpands.plain hembeds
    rw [hf, List.mem_singleton] at hx
    rw [hx, Field.IsOwn, hpath]
    rfl

/-- The fields of a model are its own and those of the models that it absorbs, directly or over others.
The induction is on the place of the model, as an absorbed one stands before it. -/
theorem forall_fields_iff {P : Field → Prop} (hP : ∀ f, P f ↔ P f.core) {i : Nat} {a : Model}
    (ha : r.models[i]? = some a) (hrec : a.isRecord = true) (hforward : s.AbsorbsForward a.id) :
    (∀ x ∈ a.fields, P x) ↔
      ∀ b ∈ r.models, Relation.ReflTransGen s.Absorbs a.id b.id → ∀ x ∈ b.fields, x.IsOwn → P x := by
  induction i using Nat.strongRecOn generalizing a with
  | ind i ih =>
    have hmem := List.mem_of_getElem? ha
    constructor
    · intro h b hb hreach x hx hown
      rcases Relation.ReflTransGen.cases_head hreach with hid | ⟨t, hat, htb⟩
      · rw [← eq_of_id_eq hr hmem hb hid] at hx
        exact h x hx
      · obtain ⟨j, c, hlt, hc, rfl, hcopied⟩ :=
          exists_of_absorbs hr ha hrec hat (hforward a.id t .refl hat)
        have hall : ∀ y ∈ c.fields, P y := by
          intro y hy
          obtain ⟨z, hz, hzy⟩ := hcopied y hy
          rw [hP y, ← hzy, ← hP z]
          exact h z hz
        have hcrec : c.isRecord = true := (isRecord_of_absorbs hr (List.mem_of_getElem? hc) hat)
        exact (ih j hlt hc hcrec (hforward.of_absorbs hat)).mp hall b hb htb x hx hown
    · intro h x hx
      rcases isOwn_or_of_absorbs hr ha hforward hx with hown | ⟨j, b, hlt, hb, hab, y, hy, hxy⟩
      · exact h a hmem .refl x hx hown
      · have hbrec : b.isRecord = true := isRecord_of_absorbs hr (List.mem_of_getElem? hb) hab
        have hall := (ih j hlt hb hbrec (hforward.of_absorbs hab)).mpr
          fun c hc hreach => h c hc (.head hab hreach)
        rw [hP x, hxy, ← hP y]
        exact hall y hy

end

end Registry
end RecordMapping
