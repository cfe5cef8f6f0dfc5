import RecordMapping.Proofs.JoinTables
import RecordMapping.Proofs.Lookup

/-!
Where relationships come from.

A relationship of a stored model is an outcome of the rule.  The rule read what the owner declares
and what could be seen of the other model at that time: all that it publishes if its resolution had
ended, and else what it declares.  The kind of the relationship tells which part of the rule found
it.
-/

namespace RecordMapping

open Resolution

/-- The key that is looked for in the other model. -/
def Settings.theirKey (settings : Settings) (ownerName : String) : String :=
  (settings.nonEmpty? "FOREIGNKEY").getD (ownerName ++ "Id")

/-! ## The parts of the rule -/

namespace Resolution

/-- A relationship is found with a join table, or with its key in the owner, or in the target. -/
inductive FoundBy (owner target : Side) (settings : Settings) (r : Relationship) : Prop
  | joinTable (setting : String)
      (h : (heldByJoinTable owner target settings (settings.theirKey owner.name) setting).outcome =
        .related r) : FoundBy owner target settings r
  | owner (hkind : r.kind = .belongsTo) : FoundBy owner target settings r
  | target {kind : Relationship.Kind} (hkind : kind = .hasOne ∨ kind = .hasMany)
      (h : (heldByTarget kind target settings (settings.theirKey owner.name)).outcome =
        .related r) : FoundBy owner target settings r

section

variable {owner target : Side} {x : Field} {settings : Settings} {r : Relationship}

theorem foundBy_of_findOne {embeds : Bool}
    (h : (findOne owner target x embeds).outcome = .related r) :
    FoundBy owner target x.settings r := by
  cases embeds with
  | true =>
    rw [findOne_embeds] at h
    contradiction
  | false =>
    cases hlocate : owner.view.locate?
        ((x.settings.nonEmpty? "FOREIGNKEY").getD (x.name ++ "Id")) with
    | some found =>
      rw [findOne_of_some hlocate] at h
      rw [← Outcome.related.inj h]
      exact .owner (start_kind .belongsTo target x.settings)
    | none =>
      rw [findOne_of_none hlocate] at h
      exact .target (Or.inl rfl) h

theorem foundBy_of_findMany (h : (findMany owner target x).outcome = .related r) :
    FoundBy owner target x.settings r := by
  cases hsetting : x.settings.get? "MANY2MANY" with
  | some setting =>
    rw [findMany_of_some hsetting] at h
    exact .joinTable setting h
  | none =>
    rw [findMany_of_none hsetting] at h
    exact .target (Or.inr rfl) h

theorem foundBy_of_find {side : ModelId → Side} {anonymous : Bool}
    (h : (find owner side x anonymous).outcome = .related r) :
    ∃ t, x.type.Holds t ∧ FoundBy owner (side t) x.settings r := by
  rcases find_cases owner side x anonymous with
    ⟨⟨scanner, hfind⟩, -⟩ | ⟨t, ht, -, ⟨embeds, hfind⟩ | hfind⟩
  · rw [hfind] at h
    contradiction
  · rw [hfind] at h
    exact ⟨t, FieldType.associated?_eq_some_iff.mp ht, foundBy_of_findOne h⟩
  · rw [hfind] at h
    exact ⟨t, FieldType.associated?_eq_some_iff.mp ht, foundBy_of_findMany h⟩

/-- The key that was found takes the place of the one that the relationship starts with. -/
theorem eq_of_heldByTarget {kind : Relationship.Kind} {foreignKey : String}
    (h : (heldByTarget kind target settings foreignKey).outcome = .related r) :
    r = (start kind target settings).1.withForeignKey
      (((target.view.locate? foreignKey).map (·.ref)).getD
        (start kind target settings).1.foreignKey) := by
  cases hlocate : target.view.locate? foreignKey with
  | some found =>
    rw [heldByTarget_of_some hlocate] at h
    exact (Outcome.related.inj h).symm
  | none =>
    rw [heldByTarget_of_none hlocate] at h
    split at h
    · exact (Outcome.related.inj h).symm
    · contradiction

theorem kind_of_heldByTarget {kind : Relationship.Kind} {foreignKey : String}
    (h : (heldByTarget kind target settings foreignKey).outcome = .related r) : r.kind = kind := by
  rw [eq_of_heldByTarget h]
  exact start_kind kind target settings

theorem kind_of_heldByJoinTable {foreignKey setting : String}
    (h : (heldByJoinTable owner target settings foreignKey setting).outcome = .related r) :
    r.kind = .manyToMany := by
  rw [← Outcome.related.inj h]
  exact start_kind .manyToMany target settings

theorem FoundBy.heldByJoinTable (h : FoundBy owner target settings r)
    (hkind : r.kind = .manyToMany) :
    ∃ setting, (heldByJoinTable owner target settings (settings.theirKey owner.name)
      setting).outcome = .related r := by
  cases h with
  | joinTable setting h => exact ⟨setting, h⟩
  | owner howner =>
    rw [howner] at hkind
    contradiction
  | target htarget h =>
    rw [kind_of_heldByTarget h] at hkind
    rw [hkind] at htarget
    rcases htarget with htarget | htarget <;> contradiction

theorem FoundBy.heldByTarget (h : FoundBy owner target settings r)
    (hkind : r.kind = .hasOne ∨ r.kind = .hasMany) :
    (heldByTarget r.kind target settings (settings.theirKey owner.name)).outcome = .related r := by
  cases h with
  | joinTable setting h =>
    rw [kind_of_heldByJoinTable h] at hkind
    rcases hkind with hkind | hkind <;> contradiction
  | owner howner =>
    rw [howner] at hkind
    rcases hkind with hkind | hkind <;> contradiction
  | target htarget h =>
    rw [kind_of_heldByTarget h]
    exact h

end

/-- The relationship of a settled slot was found by the rule. -/
theorem Slot.Follows.foundBy {s : Schema} {owner : ModelId} {d : FieldDeclaration} {slot : Slot}
    {fields : List Field} {v : View} {r : Relationship} (h : slot.Follows d)
    (hshows : slot.Shows fields (declaredFinding s owner d v).outcome)
    (hr : slot.field.relationship? = some r) :
    ∃ t, d.type.Holds t ∧
      FoundBy (s.declaredSide owner) ⟨t, s.name t, v⟩ slot.field.settings r := by
  rw [hshows.relationship] at hr
  rw [h.settings]
  exact foundBy_of_find (Outcome.eq_related_of_relationship? hr)

/-- Whatever relationship a slot has, it was found by the rule when the slot was settled. -/
theorem Progress.foundBy {s : Schema} {known : Model → Prop} {f : Frame} {k i : Nat}
    {d : FieldDeclaration} {slot : Slot} {r : Relationship} (h : Progress s known f k)
    (hd : (s.exported f.id)[i]? = some d) (hslot : f.slots[i]? = some slot)
    (hr : slot.field.relationship? = some r) :
    ∃ t v, d.type.Holds t ∧
      FoundBy (s.declaredSide f.id) ⟨t, s.name t, v⟩ slot.field.settings r := by
  have hfollows := h.follows hd hslot
  by_cases hfresh : k ≤ i ∨ slot.field.isIgnored = true
  · rw [(h.isFresh hslot hfresh).relationship] at hr
    contradiction
  · rw [not_or, Nat.not_le, Bool.not_eq_true] at hfresh
    obtain ⟨v, -, hshows⟩ :=
      h.settled hfresh.1 hd (hfollows.isIgnored.symm.trans hfresh.2) hslot
    obtain ⟨t, ht, hfound⟩ := hfollows.foundBy hshows hr
    exact ⟨t, v, ht, hfound⟩

end Resolution

/-! ## What was seen of the other model -/

/-- What could be seen of the model `b` at place `j` while the model `a` at place `i` was open. -/
inductive Model.Seen (s : Schema) (i : Nat) (a : Model) (j : Nat) (b : Model) (v : View) : Prop
  | ended {m : Model} (hlt : j < i) (hv : v = viewModel m) (hm : m.unmarked = b.unmarked) :
      Model.Seen s i a j b v
  | opened (hle : i ≤ j) (hreach : s.Reaches b.id a.id) (hrecord : s.isRecord b.id = true)
      (hv : v.Alike (s.declaredView b.id)) : Model.Seen s i a j b v

/-- The field `x` of the model `a` at place `i` was declared as `d`, and settled from what could be seen of
the model that it holds. -/
structure Field.FoundAs (s : Schema) (models : List Model) (i : Nat) (a : Model) (x : Field)
    (d : FieldDeclaration) : Prop where
  skeleton : x.skeleton = ofDeclaration d
  plain : ¬ s.Embeds d
  target : ∀ rel, x.relationship? = some rel → ∃ t, d.target? = some t
  seen : ∀ t, d.target? = some t → ∃ j b v, models[j]? = some b ∧ b.id = t ∧
    Model.Seen s i a j b v ∧ v.isRecord = s.isRecord t ∧
      x.relationship? = (declaredFinding s a.id d v).outcome.relationship?

theorem Field.FoundAs.type {s : Schema} {models : List Model} {i : Nat} {a : Model} {x : Field}
    {d : FieldDeclaration} (h : x.FoundAs s models i a d) : x.type = d.type :=
  congrArg Field.type h.skeleton

theorem Field.FoundAs.settings {s : Schema} {models : List Model} {i : Nat} {a : Model} {x : Field}
    {d : FieldDeclaration} (h : x.FoundAs s models i a d) :
    x.settings = (ofDeclaration d).settings := by
  rw [← h.skeleton]
  rfl

namespace Model.Seen

variable {s : Schema} {i j : Nat} {a b : Model} {v : View}

theorem lt_of_not_reaches (h : Seen s i a j b v) (hno : ¬ s.Reaches b.id a.id) : j < i := by
  cases h with
  | ended hlt hv hm => exact hlt
  | opened hle hreach hrecord hv => exact absurd hreach hno

theorem locate?_of_lt (h : Seen s i a j b v) (hlt : j < i) :
    (fun key => (v.locate? key).map (·.ref)) =
      fun key => (b.answering? key).map Field.keyRef := by
  cases h with
  | ended _ hv hm =>
    rw [hv]
    exact funext fun key => Model.ref_locate?_viewModel hm key
  | opened hle hreach hrecord hv => exact absurd hlt (Nat.not_lt_of_le hle)

theorem locate?_of_le (h : Seen s i a j b v) (hle : i ≤ j) :
    (fun key => (v.locate? key).map (·.ref)) =
      fun key => (s.firstMatch? b.id key).map (·.ref) := by
  cases h with
  | ended hlt hv hm => exact absurd hlt (Nat.not_lt_of_le hle)
  | opened _ hreach hrecord hv =>
    funext key
    rw [hv.locate?, locate?_declaredView hrecord]

end Model.Seen

namespace Registry

section

variable {s : Schema} {r : Registry} (hr : Occurs (r.scope s) ⟨{}, []⟩)

include hr

/-- What was settled for a field that a stored model declares was found by the rule. -/
theorem exists_foundAs {i : Nat} {a : Model} (ha : r.models[i]? = some a) {x : Field}
    (hx : x ∈ a.fields) (hown : x.IsOwn) : ∃ d, x.FoundAs s r.models i a d := by
  cases entry_of_getElem? hr ha with
  | blank _ hblank => exact absurd hx (Model.not_mem_fields_of_unmarked hblank x)
  | @record f tableName opened hf hs hopened hmade =>
    have hid : a.id = f.id := congrArg Model.id hmade
    obtain ⟨k, d, slot, hd, hslot, hexpansion, hxslot⟩ := hf.slot_of_mem hmade hx hown
    have hlt := (List.getElem?_eq_some_iff.mp hd).1
    have hfollows := hf.follows hd hslot
    have hrelationship : x.relationship? = slot.field.relationship? := by
      show x.unmarked.relationship? = _
      rw [hxslot]
      rfl
    refine ⟨d, (congrArg Field.skeleton hxslot).trans hfollows.field,
      hf.not_embeds hd hslot hexpansion, ?_, ?_⟩
    · intro rel hrel
      rw [hrelationship] at hrel
      exact hf.target?_of_relationship? hlt hd hslot hrel
    · intro t ht
      have href : s.Refers a.id t := by
        rw [hid]
        exact Schema.refers_of_target? hf.isRecord hd ht
      obtain ⟨v, hv, hshows⟩ := hs k d slot t hlt hd hslot ht
      have hrel := hrelationship.trans hshows.relationship
      rw [← hid] at hrel hopened
      obtain ⟨j, b, hb, rfl, hseen⟩ := place_of_origin hr ha hopened href hv
      refine ⟨j, b, v, hb, rfl, ?_, hv.isRecord, hrel⟩
      rcases hseen with ⟨hlt, m, hview, hm⟩ | ⟨hle, hreach, g, n, hg, hgid, hview⟩
      · exact .ended hlt hview hm
      · refine .opened hle hreach ?_ ?_
        · rw [← hgid]
          exact hg.isRecord
        · rw [hview, ← hgid]
          exact hg.view_alike

/-- The relationship of a field that a stored model declares was found by the rule. -/
theorem exists_foundBy {i : Nat} {a : Model} (ha : r.models[i]? = some a) {x : Field}
    (hx : x ∈ a.fields) (hown : x.IsOwn) {rel : Relationship} (hrel : x.relationship? = some rel) :
    ∃ j b v, r.models[j]? = some b ∧ x.type.Holds b.id ∧ Model.Seen s i a j b v ∧
      FoundBy (s.declaredSide a.id) ⟨b.id, s.name b.id, v⟩ x.settings rel := by
  obtain ⟨d, hfoundAs⟩ := exists_foundAs hr ha hx hown
  obtain ⟨t, ht⟩ := hfoundAs.target rel hrel
  obtain ⟨j, b, v, hb, rfl, hseen, -, hrelationship⟩ := hfoundAs.seen t ht
  have hholds := (FieldDeclaration.target?_eq_some_iff.mp ht).2
  have houtcome := Outcome.eq_related_of_relationship? (hrelationship.symm.trans hrel)
  obtain ⟨u, hu, hfound⟩ := foundBy_of_find houtcome
  obtain rfl : b.id = u := hholds.unique hu
  rw [hfoundAs.type, hfoundAs.settings]
  exact ⟨j, b, v, hb, hholds, hseen, hfound⟩

end

end Registry
end RecordMapping
