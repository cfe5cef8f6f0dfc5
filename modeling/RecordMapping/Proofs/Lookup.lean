import RecordMapping.Proofs.Relationships
import RecordMapping.Proofs.Resolution.Chronicle
import RecordMapping.Proofs.Resolution.Related

/-!
Which fields a key can be.

The key of a relationship is the first field that it names.  A model whose resolution has ended is
looked through as it is published.  One that is still open, as the owner of the field always is, is
looked through as it is declared, so that no field is seen that it takes over from an embedded
model.

An open model shows its embeddings as well.  If one of them is the first field that a key names, the
published model has no such field.
-/

namespace RecordMapping

open Resolution

instance Field.decidableIsOwn : DecidablePred Field.IsOwn := fun f =>
  inferInstanceAs (Decidable (f.path.length = 1))

/-- The key of the field's relationship, if this is of the given kind. -/
def Field.key? (f : Field) (kind : Relationship.Kind) : Option KeyRef :=
  (f.relationship?.filter (·.kind = kind)).map (·.foreignKey)

namespace Model

/-- The first field that the key names. -/
def answering? (m : Model) (key : String) : Option Field :=
  (m.fieldAnswering? key).bind (m.fields[·]?)

/-- The first field that the key names among those that the model declares itself. -/
def ownAnswering? (m : Model) (key : String) : Option Field :=
  m.fields.find? fun f => f.IsOwn && f.answersTo key

end Model

namespace Schema

/-- The first declared field that the key names is an embedding. -/
def FindsEmbedding (s : Schema) (id : ModelId) (key : String) : Prop :=
  ∃ d, (s.exported id).find? (fun d => (Field.ofDeclaration d).answersTo key) = some d ∧ s.Embeds d

/-- The field takes part in the mapping, holds one record of the model, and is not replaced by it. -/
structure HoldsOne (s : Schema) (d : FieldDeclaration) (t : ModelId) : Prop where
  included : d.annotation.isExcluded = false
  present : d.type.present = .model t
  record : s.isRecord t = true
  plain : ¬ s.Embeds d

end Schema

/-- What becomes of a field of the model `a` at place `i` that holds one record of the model `b` at
place `j`. -/
structure Share.LooksUp (s : Schema) (i : Nat) (a : Model) (d : FieldDeclaration) (share : Share)
    (j : Nat) (b : Model) : Prop where
  earlier : ¬ s.Reaches b.id a.id → j < i
  single : ∃ f, share.fields = [f] ∧ f.path = [d.name]
  belongsTo : ¬ s.FindsEmbedding a.id (Schema.ownKey d) → ∀ f ∈ share.fields,
    f.key? .belongsTo = (a.ownAnswering? (Schema.ownKey d)).map Field.keyRef
  /-- The field belongs to none, and the other model has ended. -/
  endedHasOne : ¬ s.FindsEmbedding a.id (Schema.ownKey d) → a.ownAnswering? (Schema.ownKey d) = none →
    j < i → ∀ y, b.answering? (s.theirKey a.id d) = some y → ∀ f ∈ share.fields,
      f.key? .hasOne = some y.keyRef
  /-- The field belongs to none, and the other model is open. -/
  openHasOne : ¬ s.FindsEmbedding a.id (Schema.ownKey d) → a.ownAnswering? (Schema.ownKey d) = none →
    i ≤ j → ¬ s.FindsEmbedding b.id (s.theirKey a.id d) →
      ∀ y, b.ownAnswering? (s.theirKey a.id d) = some y → ∀ f ∈ share.fields,
        f.key? .hasOne = some y.keyRef
  unresolved : share.unresolved? ≠ none → a.ownAnswering? (Schema.ownKey d) = none ∧
    (j < i → b.answering? (s.theirKey a.id d) = none) ∧
    (i ≤ j → b.ownAnswering? (s.theirKey a.id d) = none)

/-! ## What is found in a view -/

namespace Resolution

/-- The key of the relationship that was found, if this is of the given kind. -/
def Outcome.key? (o : Outcome) (kind : Relationship.Kind) : Option KeyRef :=
  (o.relationship?.filter (·.kind = kind)).map (·.foreignKey)

theorem Outcome.key?_related (r : Relationship) (kind : Relationship.Kind) :
    (Outcome.related r).key? kind = if r.kind = kind then some r.foreignKey else none := by
  by_cases hkind : r.kind = kind
  · simp [key?, relationship?, hkind]
  · simp [key?, relationship?, hkind]

theorem View.ref_locate? (v : View) (key : String) :
    (v.locate? key).map (·.ref) = (v.fields.find? (·.answersTo key)).map Field.keyRef := by
  have hfind : v.fields.find? (·.answersTo key) =
      (v.fields.zipIdx.find? ((·.answersTo key) ∘ Prod.fst)).map Prod.fst := by
    conv_lhs => rw [← List.zipIdx_map_fst 0 v.fields, List.find?_map]
  rw [hfind, View.locate?, Option.map_map, Option.map_map]
  rfl

section

variable {owner target : Side} {field : Field}

/-- A key in the owner makes the field belong to the target, and nothing else does. -/
theorem key?_findOne_belongsTo (owner target : Side) (field : Field) :
    (findOne owner target field false).outcome.key? .belongsTo =
      (owner.view.locate? ((field.settings.nonEmpty? "FOREIGNKEY").getD (field.name ++ "Id"))).map
        (·.ref) := by
  cases hown : owner.view.locate?
      ((field.settings.nonEmpty? "FOREIGNKEY").getD (field.name ++ "Id")) with
  | some found =>
    have hkind := start_kind .belongsTo target field.settings
    rw [findOne_of_some hown, Outcome.key?_related, Relationship.withForeignKey, if_pos hkind]
    rfl
  | none =>
    rw [findOne_of_none hown]
    rcases heldByTarget_outcome .hasOne target field.settings
        ((field.settings.nonEmpty? "FOREIGNKEY").getD (owner.name ++ "Id")) with ⟨r, hr⟩ | hr
    · rw [hr, Outcome.key?_related, (yields_of_heldByTarget hr).1]
      rfl
    · rw [hr]
      rfl

theorem key?_findOne_hasOne {found : Located}
    (hown : owner.view.locate?
      ((field.settings.nonEmpty? "FOREIGNKEY").getD (field.name ++ "Id")) = none)
    (htheirs : target.view.locate?
      ((field.settings.nonEmpty? "FOREIGNKEY").getD (owner.name ++ "Id")) = some found) :
    (findOne owner target field false).outcome.key? .hasOne = some found.ref := by
  have hkind := start_kind .hasOne target field.settings
  rw [findOne_of_none hown, heldByTarget_of_some htheirs, Outcome.key?_related,
    Relationship.withForeignKey, if_pos hkind]

/-- A field stays open only if its key is in neither of the two models. -/
theorem locate?_of_unresolved {name : String}
    (h : (findOne owner target field false).outcome.unresolved? name ≠ none) :
    owner.view.locate? ((field.settings.nonEmpty? "FOREIGNKEY").getD (field.name ++ "Id")) = none ∧
      target.view.locate? ((field.settings.nonEmpty? "FOREIGNKEY").getD (owner.name ++ "Id")) =
        none := by
  cases hown : owner.view.locate?
      ((field.settings.nonEmpty? "FOREIGNKEY").getD (field.name ++ "Id")) with
  | some found =>
    rw [findOne_of_some hown] at h
    exact absurd rfl h
  | none =>
    refine ⟨rfl, ?_⟩
    cases htheirs : target.view.locate?
        ((field.settings.nonEmpty? "FOREIGNKEY").getD (owner.name ++ "Id")) with
    | none => rfl
    | some found =>
      rw [findOne_of_none hown, heldByTarget_of_some htheirs] at h
      exact absurd rfl h

end

/-- The rule for one record is applied to what the owner declares and to what can be read of the
target. -/
theorem declaredFinding_one {s : Schema} {owner t : ModelId} {d : FieldDeclaration} {v : View}
    (h : s.HoldsOne d t) (hv : v.isRecord = s.isRecord t) :
    declaredFinding s owner d v =
      findOne (s.declaredSide owner) ⟨t, s.name t, v⟩ (Field.ofDeclaration d) false := by
  have hrole : (Field.ofDeclaration d).type.role = .one t := FieldType.role_eq_one_iff.mpr h.present
  have hplain := contains_embedded_eq_false h.included h.present h.record h.plain
  rw [declaredFinding, find_one hrole (hv.trans h.record), hplain]

/-! ## What a finished model shows of its declaration -/

theorem find?_filter_of_find? {α : Type} {p q : α → Bool} {xs : List α} {x : α}
    (h : xs.find? q = some x) (hx : p x = true) : (xs.filter p).find? q = some x := by
  obtain ⟨hq, before, behind, rfl, hbefore⟩ := List.find?_eq_some_iff_append.mp h
  rw [List.find?_eq_some_iff_append]
  refine ⟨hq, before.filter p, behind.filter p, ?_, ?_⟩
  · rw [List.filter_append, List.filter_cons_of_pos hx]
  · exact fun y hy => hbefore y (List.mem_of_mem_filter hy)

theorem map_filter_eq_flatMap {α β : Type} (p : α → Bool) (g : α → β) (xs : List α) :
    (xs.filter p).map g = xs.flatMap fun x => if p x then [g x] else [] := by
  induction xs with
  | nil => rfl
  | cons x xs ih =>
    rw [List.filter_cons, List.flatMap_cons, ← ih]
    split <;> rfl

section

variable {s : Schema} {known : Model → Prop} {f : Frame} {key : String}

theorem Slot.Follows.answersTo {d : FieldDeclaration} {slot : Slot} (h : slot.Follows d) :
    slot.field.answersTo = (Field.ofDeclaration d).answersTo := by
  funext key
  rw [← h.field]
  rfl

/-- The fields of the model's own are those of the slots that are no embeddings. -/
theorem Progress.filter_isOwn (h : Progress s known f (s.exported f.id).length) :
    f.fields.filter (·.IsOwn) = (f.slots.filter (·.expansion?.isNone)).map (·.field) := by
  have hslot : ∀ slot ∈ f.slots,
      slot.fields.filter (·.IsOwn) = if slot.expansion?.isNone then [slot.field] else [] := by
    intro slot hmem
    obtain ⟨i, hslot⟩ := List.getElem?_of_mem hmem
    obtain ⟨d, hd, hfollows⟩ := h.exists_declaration hslot
    cases hexpansion : slot.expansion? with
    | none =>
      rw [Slot.fields, hexpansion]
      simp [hfollows.isOwn]
    | some xs =>
      refine List.filter_eq_nil_iff.mpr fun x hx => ?_
      simpa using h.not_isOwn_of_expansion hslot (by simp [hexpansion]) hx
  rw [Frame.fields, List.filter_flatMap, List.flatMap_congr hslot, map_filter_eq_flatMap]

/-- What is found first among the declared fields is found first among the published ones of the
model's own, unless it is an embedding. -/
theorem Progress.find?_isOwn (h : Progress s known f (s.exported f.id).length)
    (hkept : ¬ s.FindsEmbedding f.id key) :
    ((f.fields.filter (·.IsOwn)).find? (·.answersTo key)).map Field.keyRef =
      ((s.declaredView f.id).locate? key).map (·.ref) := by
  have hslots : List.Forall₂ (fun slot d =>
      slot.field.answersTo key = (Field.ofDeclaration d).answersTo key ∧
        slot.field.keyRef = (Field.ofDeclaration d).keyRef ∧ (slot.expansion? ≠ none → s.Embeds d))
      f.slots (s.exported f.id) := by
    apply forall₂_of_getElem? h.length_slots
    intro i slot d hslot hd
    have hfollows := h.follows hd hslot
    exact ⟨congrFun hfollows.answersTo key, hfollows.keyRef, h.embeds_of_expansion hd hslot⟩
  -- The same slot comes first among all slots and among the declarations.
  have hrel := rel_find? hslots
  rw [h.filter_isOwn, List.find?_map, View.ref_locate?, Schema.fields_declaredView h.isRecord,
    List.find?_map, Option.map_map, Option.map_map]
  show ((f.slots.filter _).find? fun slot => slot.field.answersTo key).map _ =
    ((s.exported f.id).find? fun d => (Field.ofDeclaration d).answersTo key).map _
  unfold Schema.FindsEmbedding at hkept
  generalize (s.exported f.id).find? (fun d => (Field.ofDeclaration d).answersTo key) =
    declared? at hrel hkept ⊢
  generalize hfound : f.slots.find? (fun slot => slot.field.answersTo key) = slot? at hrel
  cases hrel with
  | none =>
    have hnone : (f.slots.filter (·.expansion?.isNone)).find?
        (fun slot => slot.field.answersTo key) = none :=
      List.find?_eq_none.mpr fun slot hmem =>
        List.find?_eq_none.mp hfound slot (List.mem_of_mem_filter hmem)
    rw [hnone]
    rfl
  | @some slot d hslot =>
    have hplain : slot.expansion?.isNone = true := by
      by_contra hexpansion
      exact hkept ⟨d, rfl, hslot.2 (by simpa using hexpansion)⟩
    rw [find?_filter_of_find? hfound hplain]
    exact congrArg some hslot.1

theorem not_findsEmbedding_of_locate? {id : ModelId} (hr : s.isRecord id = true)
    (h : (s.declaredView id).locate? key = none) : ¬ s.FindsEmbedding id key := by
  rintro ⟨d, hd, -⟩
  have href := (s.declaredView id).ref_locate? key
  rw [h, Schema.fields_declaredView hr, List.find?_map, Option.map_map] at href
  have hnone : (none : Option KeyRef) =
      ((s.exported id).find? fun d => (Field.ofDeclaration d).answersTo key).map _ := href
  rw [hd] at hnone
  contradiction

end

/-- What was found for a share from what can be read of the model that its field holds. -/
structure Finds (s : Schema) (owner : ModelId) (d : FieldDeclaration) (v : View) (share : Share) :
    Prop where
  belongsTo : ∀ f ∈ share.fields, f.key? .belongsTo =
    ((s.declaredView owner).locate? (Schema.ownKey d)).map (·.ref)
  hasOne : (s.declaredView owner).locate? (Schema.ownKey d) = none →
    ∀ key, (v.locate? (s.theirKey owner d)).map (·.ref) = some key → ∀ f ∈ share.fields,
      f.key? .hasOne = some key
  unresolved : share.unresolved? ≠ none →
    (s.declaredView owner).locate? (Schema.ownKey d) = none ∧ v.locate? (s.theirKey owner d) = none

theorem finds_of_outcome {s : Schema} {owner t : ModelId} {d : FieldDeclaration} {v : View}
    {share : Share} (hone : s.HoldsOne d t) (hv : v.isRecord = s.isRecord t)
    (hrelated : ∀ f ∈ share.fields,
      f.relationship? = (declaredFinding s owner d v).outcome.relationship?)
    (hopen : share.unresolved? = (declaredFinding s owner d v).outcome.unresolved? d.name) :
    Finds s owner d v share := by
  have hsettings := Field.settings_ofDeclaration hone.included
  have hkey : ∀ kind, ∀ f ∈ share.fields,
      f.key? kind = (declaredFinding s owner d v).outcome.key? kind := by
    intro kind f hf
    rw [Field.key?, hrelated f hf]
    rfl
  rw [declaredFinding_one hone hv] at hkey hopen
  refine ⟨?_, ?_, ?_⟩
  · intro f hf
    rw [hkey .belongsTo f hf, key?_findOne_belongsTo, hsettings]
    rfl
  · intro hown key htheirs f hf
    obtain ⟨found, hfound, rfl⟩ := Option.map_eq_some_iff.mp htheirs
    rw [hkey .hasOne f hf]
    apply key?_findOne_hasOne
    · rw [hsettings]
      exact hown
    · rw [hsettings]
      exact hfound
  · intro hne
    rw [hopen] at hne
    have hnone := locate?_of_unresolved hne
    rw [hsettings] at hnone
    exact hnone

end Resolution

/-! ## Models -/

namespace Model

theorem answering?_eq (m : Model) (key : String) :
    m.answering? key = m.fields.find? (·.answersTo key) :=
  List.find?_eq_bind_findIdx?_getElem?.symm

theorem ownAnswering?_eq (m : Model) (key : String) :
    m.ownAnswering? key = (m.fields.filter (·.IsOwn)).find? (·.answersTo key) := by
  rw [ownAnswering?, List.find?_filter]
  congr 1
  funext f
  simp

theorem keyRef_ownAnswering?_unmarked (m : Model) (key : String) :
    (m.unmarked.ownAnswering? key).map Field.keyRef = (m.ownAnswering? key).map Field.keyRef := by
  rw [ownAnswering?, ownAnswering?, unmarked, List.find?_map, Option.map_map]
  rfl

theorem ref_locate?_viewModel {m n : Model} (h : m.unmarked = n.unmarked) (key : String) :
    ((viewModel m).locate? key).map (·.ref) = (n.answering? key).map Field.keyRef := by
  rw [(viewModel_alike h).locate?, View.ref_locate?, answering?_eq]
  rfl

end Model

namespace Registry

section

variable {s : Schema} {r : Registry} (hr : Occurs (r.scope s) ⟨{}, []⟩)

include hr

theorem keyRef_ownAnswering? {m : Model} (hm : m ∈ r.models) (hrec : s.isRecord m.id = true)
    {key : String} (hkept : ¬ s.FindsEmbedding m.id key) :
    (m.ownAnswering? key).map Field.keyRef = ((s.declaredView m.id).locate? key).map (·.ref) := by
  cases hr.traced.of_has hm with
  | @record f tableName hf hmade =>
    have hid : m.id = f.id := congrArg Model.id hmade
    rw [← m.keyRef_ownAnswering?_unmarked, hmade, Model.keyRef_ownAnswering?_unmarked,
      Model.ownAnswering?_eq, hid]
    rw [hid] at hkept
    exact hf.find?_isOwn hkept
  | @blank id hblank hmade =>
    have hid : m.id = id := congrArg Model.id hmade
    rw [hid] at hrec
    exact absurd (hrec.symm.trans hblank) (by decide)

theorem ownAnswering?_eq_none {m : Model} (hm : m ∈ r.models) (hrec : s.isRecord m.id = true)
    {key : String} (h : (s.declaredView m.id).locate? key = none) : m.ownAnswering? key = none := by
  have href := keyRef_ownAnswering? hr hm hrec (not_findsEmbedding_of_locate? hrec h)
  rw [h] at href
  exact Option.map_eq_none_iff.mp href

/-- What was found in the views is found in the published models. -/
theorem looksUp_of_origin {i : Nat} {a : Model} (ha : r.models[i]? = some a)
    (hrec : s.isRecord a.id = true) {opened : List ModelId}
    (hopened : ∀ t ∈ opened,
      s.Reaches t a.id ∧ t ∉ ((r.models.take i).map Model.unmarked).map (·.id))
    {d : FieldDeclaration} {t : ModelId} (href : s.Refers a.id t) (hone : s.HoldsOne d t) {v : View}
    (hv : Origin s ((r.models.take i).map Model.unmarked) opened t v) {share : Share}
    (hsingle : ∃ f, share.fields = [f] ∧ f.path = [d.name]) (hfinds : Finds s a.id d v share) :
    ∃ j b, r.models[j]? = some b ∧ b.id = t ∧ share.LooksUp s i a d j b := by
  have hmem := List.mem_of_getElem? ha
  have hown : ¬ s.FindsEmbedding a.id (Schema.ownKey d) → a.ownAnswering? (Schema.ownKey d) = none →
      (s.declaredView a.id).locate? (Schema.ownKey d) = none := by
    intro hkept hnone
    have hrefs := keyRef_ownAnswering? hr hmem hrec hkept
    rw [hnone] at hrefs
    exact Option.map_eq_none_iff.mp hrefs.symm
  have hbelongs : ¬ s.FindsEmbedding a.id (Schema.ownKey d) → ∀ f ∈ share.fields,
      f.key? .belongsTo = (a.ownAnswering? (Schema.ownKey d)).map Field.keyRef := by
    intro hkept f hf
    rw [keyRef_ownAnswering? hr hmem hrec hkept]
    exact hfinds.belongsTo f hf
  obtain ⟨j, b, hb, rfl, ⟨hlt, m, rfl, hbm⟩ | ⟨hge, hreach, g, k, hg, hid, rfl⟩⟩ :=
    place_of_origin hr ha hopened href hv
  -- The other model has ended, and what was read of it is what it publishes, apart from marks.
  · have hview := Model.ref_locate?_viewModel hbm (s.theirKey a.id d)
    refine ⟨j, b, hb, rfl, fun _ => hlt, hsingle, hbelongs, ?_,
      fun _ _ hge => absurd hlt (Nat.not_lt_of_le hge), ?_⟩
    · intro hkept hnone _ y hy
      rw [hy] at hview
      exact hfinds.hasOne (hown hkept hnone) y.keyRef hview
    · intro hne
      obtain ⟨hnone, htheirs⟩ := hfinds.unresolved hne
      refine ⟨ownAnswering?_eq_none hr hmem hrec hnone, fun _ => ?_,
        fun hge => absurd hlt (Nat.not_lt_of_le hge)⟩
      rw [htheirs] at hview
      exact Option.map_eq_none_iff.mp hview.symm
  -- It is open, and what was read of it is what it declares, whatever it publishes in the end.
  · have hbmem := List.mem_of_getElem? hb
    have hview : g.view.locate? (s.theirKey a.id d) =
        (s.declaredView b.id).locate? (s.theirKey a.id d) := by
      rw [← hid]
      exact hg.view_alike.locate? _
    refine ⟨j, b, hb, rfl, fun hno => absurd hreach hno, hsingle, hbelongs,
      fun _ _ hlt => absurd hlt (Nat.not_lt_of_le hge), ?_, ?_⟩
    · intro hkept hnone _ hkept' y hy
      have hrefs := keyRef_ownAnswering? hr hbmem hone.record hkept'
      rw [hy, ← hview] at hrefs
      exact hfinds.hasOne (hown hkept hnone) y.keyRef hrefs.symm
    · intro hne
      obtain ⟨hnone, htheirs⟩ := hfinds.unresolved hne
      refine ⟨ownAnswering?_eq_none hr hmem hrec hnone,
        fun hlt => absurd hlt (Nat.not_lt_of_le hge), fun _ => ?_⟩
      rw [hview] at htheirs
      exact ownAnswering?_eq_none hr hbmem hone.record htheirs

theorem exists_looksUp {i : Nat} {a : Model} (ha : r.models[i]? = some a) (hrec : a.isRecord = true) :
    ∃ shares, a.ComposedOf shares ∧
      List.Forall₂ (fun d share => ∀ t, s.HoldsOne d t →
        ∃ j b, r.models[j]? = some b ∧ b.id = t ∧ Share.LooksUp s i a d share j b)
        (s.exported a.id) shares := by
  cases entry_of_getElem? hr ha with
  | blank _ hblank =>
    rw [Model.eq_blank_of_unmarked hblank] at hrec
    contradiction
  | @record f tableName opened hf hs hopened hmade =>
    have hid : a.id = f.id := congrArg Model.id hmade
    apply hf.shares_of hmade
    intro k d slot share hd hslot hfields hopen t hone
    have hfollows := hf.follows hd hslot
    have hlt := (List.getElem?_eq_some_iff.mp hd).1
    have ht : d.target? = some t :=
      FieldDeclaration.target?_eq_some_iff.mpr ⟨hone.included, .one hone.present⟩
    have href : s.Refers f.id t := Schema.refers_of_target? hf.isRecord hd ht
    obtain ⟨v, hv, hshows⟩ := hs k d slot t hlt hd hslot ht
    obtain ⟨x, hx, hxslot⟩ := hf.fields_of_not_embeds hd hslot hfields hone.plain
    rw [hfollows.unresolved? hone.included hshows] at hopen
    rw [← hid] at hopen hshows hopened href
    refine looksUp_of_origin hr ha (by rw [hid]; exact hf.isRecord) hopened href hone hv
      ⟨x, hx, ?_⟩ (finds_of_outcome hone hv.isRecord ?_ hopen)
    · show x.unmarked.path = _
      rw [hxslot]
      exact hfollows.path
    · intro y hy
      rw [hx, List.mem_singleton] at hy
      show y.unmarked.relationship? = _
      rw [hy, hxslot]
      exact hshows.relationship

end

/-- After any session, a field that holds one record belongs to the other model by the first field
of its own model's that its key names.  If there is none, it has the first field of the other model
that the key names, and it is left unresolved only if there is none either. -/
theorem looksUp_session (s : Schema) (c : Config) (qs : List Request) (i : Nat) (a : Model)
    (ha : (serveAll s { config := c } qs).models[i]? = some a) (hr : a.isRecord = true) :
    ∃ shares, a.ComposedOf shares ∧
      List.Forall₂ (fun d share => ∀ t, s.HoldsOne d t →
        ∃ j b, (serveAll s { config := c } qs).models[j]? = some b ∧ b.id = t ∧
          Share.LooksUp s i a d share j b) (s.exported a.id) shares :=
  exists_looksUp (occurs_session s c qs) ha hr

/-- Posts with an author and an editor.  The author's key is in the byline that a post embeds. -/
def bylines : Schema :=
  let number : FieldType := .scalar "i64"
  { declarations :=
      [{ name := "Post"
         fields :=
          [{ name := "Id", type := number },
           { name := "Byline", type := .model 1, annotation := { mapping := "embedded" } },
           { name := "Author", type := .model 2 },
           { name := "Editor", type := .optional (.model 2) },
           { name := "EditorId", type := number }] },
       { name := "Byline", fields := [{ name := "AuthorId", type := number }] },
       { name := "Author", fields := [{ name := "Id", type := number }] }] }

theorem looksUp_session_bylines :
    ∃ a, (serveAll bylines {} [.get 0]).models[2]? = some a ∧ a.isRecord = true ∧
      ∃ shares, a.ComposedOf shares ∧
        List.Forall₂ (fun d share => ∀ t, bylines.HoldsOne d t →
          ∃ j b, (serveAll bylines {} [.get 0]).models[j]? = some b ∧ b.id = t ∧
            Share.LooksUp bylines 2 a d share j b) (bylines.exported a.id) shares := by
  have hmodel : ((serveAll bylines {} [.get 0]).models[2]?.map (·.isRecord)) = some true := by
    decide +kernel
  obtain ⟨a, ha, hr⟩ := Option.map_eq_some_iff.mp hmodel
  exact ⟨a, ha, hr, looksUp_session bylines {} [.get 0] 2 a ha hr⟩

/-- The key of the author is a field of the published post, and the author stays unresolved. -/
theorem belongsTo_ne_answering_bylines :
    ∃ a ∈ (serveAll bylines {} [.get 0]).models, ∃ d ∈ bylines.exported a.id, ∃ x ∈ a.fields,
      d.name = "Author" ∧ d.type.present = .model 2 ∧ x.path = [d.name] ∧
        (a.answering? (Schema.ownKey d)).map (·.path) = some ["Byline", "AuthorId"] ∧
        x.key? .belongsTo = none ∧ a.unresolved = [⟨d.name, "PostId"⟩] := by
  decide +kernel

end Registry
end RecordMapping
