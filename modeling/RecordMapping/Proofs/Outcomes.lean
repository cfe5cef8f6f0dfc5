import RecordMapping.Proofs.Embedding
import RecordMapping.Proofs.Lookup
import RecordMapping.Proofs.Resolution.Nesting

/-!
The outcome of a field.

A field is ignored, stored or related, or it is left open, and what is left open of a model's own fields
is listed as unresolved.  A field that has been taken over may show none of the outcomes without being
listed, as it was perhaps taken before its turn had come, but never two of them.
-/

namespace RecordMapping

open Resolution

namespace Field

/-- Which of the outcomes the field shows. -/
def outcomes (x : Field) : List Bool := [x.isIgnored, x.isStored, x.hasRelationship]

/-- The field shows no outcome. -/
def isOpen (x : Field) : Bool := !(x.isIgnored || x.isStored || x.hasRelationship)

structure IsConsistent (x : Field) : Prop where
  exclusive : x.outcomes.count true ≤ 1
  ignored : x.isIgnored = true →
    x.column = "" ∧ x.settings = {} ∧ x.isPrimaryKey = false ∧ x.isScanner = false
  scanner : x.isScanner = true → x.isStored = true

end Field

/-- The entry for a field that is left open.  The key is the one that was looked for last. -/
def Unresolved.ofField (owner : String) (x : Field) : Unresolved :=
  ⟨x.name, (x.settings.nonEmpty? "FOREIGNKEY").getD (owner ++ "Id")⟩

/-- Each field of the model's own has one outcome, or is open and listed. -/
structure Model.Accounts (owner : String) (m : Model) : Prop where
  own : ∀ x ∈ m.fields, x.IsOwn → (x.isOpen :: x.outcomes).count true = 1
  unresolved : m.unresolved =
    (m.fields.filter fun x => x.isOpen && x.IsOwn).map (Unresolved.ofField owner)
  consistent : ∀ x ∈ m.fields, x.IsConsistent

namespace Field

theorem isConsistent_unmarked_iff (x : Field) : x.unmarked.IsConsistent ↔ x.IsConsistent :=
  ⟨fun h => ⟨h.exclusive, h.ignored, h.scanner⟩, fun h => ⟨h.exclusive, h.ignored, h.scanner⟩⟩

theorem IsConsistent.within {x : Field} (h : x.IsConsistent) (outer : String) :
    (x.within outer).IsConsistent := ⟨h.exclusive, h.ignored, h.scanner⟩

/-- A field that does not show two outcomes shows one, or is open. -/
theorem IsConsistent.count_outcomes {x : Field} (h : x.IsConsistent) :
    (x.isOpen :: x.outcomes).count true = 1 := by
  have hexclusive := h.exclusive
  rw [isOpen]
  rw [outcomes] at hexclusive ⊢
  revert hexclusive
  cases x.isIgnored <;> cases x.isStored <;> cases x.hasRelationship <;> decide

section

variable {d : FieldDeclaration} (h : d.annotation.isExcluded = true)

include h

theorem column_of_excluded : (ofDeclaration d).column = "" := by simp [ofDeclaration, h]

theorem settings_of_excluded : (ofDeclaration d).settings = {} := by simp [ofDeclaration, h]

theorem isPrimaryKey_of_excluded : (ofDeclaration d).isPrimaryKey = false := by
  simp [ofDeclaration, h, Settings.contains]

end

end Field

namespace Resolution

/-! ## Outcomes of slots -/

theorem Slot.IsFresh.exclusive {slot : Slot} (h : slot.IsFresh) :
    slot.field.outcomes.count true ≤ 1 := by
  rw [Field.outcomes, Field.hasRelationship, h.isStored, h.relationship]
  cases slot.field.isIgnored <;> decide

theorem Slot.Shows.exclusive {fields : List Field} {o : Outcome} {slot : Slot}
    (h : slot.Shows fields o) (hincluded : slot.field.isIgnored = false) :
    slot.field.outcomes.count true ≤ 1 := by
  rw [Field.outcomes, Field.hasRelationship, h.isStored, h.relationship, hincluded]
  cases o with
  | column scanner => exact Nat.le_refl 1
  | embedded => exact Nat.zero_le 1
  | related r => exact Nat.le_refl 1
  | unresolved key => exact Nat.zero_le 1

theorem Slot.unresolved?_eq (owner : String) (slot : Slot) :
    slot.unresolved? owner = if slot.field.isOpen && slot.expansion?.isNone then
      some (Unresolved.ofField owner slot.field) else none := by
  rw [unresolved?, Field.isOpen, Field.hasRelationship]
  cases slot.expansion? <;>
    cases slot.field.isIgnored || slot.field.isStored || slot.field.relationship?.isSome <;> rfl

section

variable {s : Schema} {known : Model → Prop} {f : Frame} {k i : Nat} {d : FieldDeclaration}
  {slot : Slot}

/-- Only what is stored as a column decodes it. -/
theorem Progress.isStored_of_isScanner (h : Progress s known f k) (hslot : f.slots[i]? = some slot)
    (hscanner : slot.field.isScanner = true) : slot.field.isStored = true := by
  induction h using Progress.induct generalizing slot with
  | start id hr =>
    obtain ⟨d, -, rfl⟩ := List.mem_map.mp (List.mem_of_getElem? hslot)
    contradiction
  | mark f k j hf ih =>
    obtain ⟨slot₀, hslot₀, rfl | rfl⟩ := Frame.slots_mark_inv hslot
    · exact ih hslot₀ hscanner
    · have hkept := ih hslot₀ hscanner
      exact hkept
  | settle f k d v hf hd hv ih =>
    obtain ⟨slot₀, hslot₀, ⟨rfl, -⟩ | ⟨rfl, -, rfl⟩⟩ := Frame.slots_settle_inv hslot
    · exact ih hslot₀ hscanner
    · have hkept := ih hslot₀
      cases ho : (f.finding s slot₀ v).outcome with
      | column scanner => rfl
      | embedded => rw [ho] at hscanner; exact hkept hscanner
      | related r => rw [ho] at hscanner; exact hkept hscanner
      | unresolved key => rw [ho] at hscanner; exact hkept hscanner

theorem Progress.exclusive (h : Progress s known f k) (hd : (s.exported f.id)[i]? = some d)
    (hslot : f.slots[i]? = some slot) : slot.field.outcomes.count true ≤ 1 := by
  have hignored := (h.follows hd hslot).isIgnored
  by_cases hfresh : k ≤ i ∨ slot.field.isIgnored = true
  · exact (h.isFresh hslot hfresh).exclusive
  · rw [not_or, Nat.not_le, Bool.not_eq_true] at hfresh
    obtain ⟨v, -, hshows⟩ := h.settled hfresh.1 hd (hignored.symm.trans hfresh.2) hslot
    exact hshows.exclusive hfresh.2

theorem Progress.not_isPrimaryKey_of_excluded (h : Progress s known f k)
    (hd : (s.exported f.id)[i]? = some d) (hslot : f.slots[i]? = some slot)
    (hexcluded : d.annotation.isExcluded = true) : slot.field.isPrimaryKey = false := by
  rw [← Bool.not_eq_true]
  intro hkey
  rcases (h.isPrimaryKey hd hslot).2 hkey with htagged | ⟨-, hcolumn⟩
  · rw [Field.isPrimaryKey_of_excluded hexcluded] at htagged
    contradiction
  · rw [Field.column_of_excluded hexcluded] at hcolumn
    contradiction

theorem Progress.isConsistent (h : Progress s known f k) (hd : (s.exported f.id)[i]? = some d)
    (hslot : f.slots[i]? = some slot) : slot.field.IsConsistent := by
  have hfollows := h.follows hd hslot
  refine ⟨h.exclusive hd hslot, ?_, h.isStored_of_isScanner hslot⟩
  intro hignored
  have hexcluded : d.annotation.isExcluded = true := hfollows.isIgnored.symm.trans hignored
  refine ⟨?_, ?_, h.not_isPrimaryKey_of_excluded hd hslot hexcluded, ?_⟩
  · rw [hfollows.column, Field.column_of_excluded hexcluded]
  · rw [hfollows.settings, Field.settings_of_excluded hexcluded]
  · rw [← Bool.not_eq_true]
    intro hscanner
    have hstored := h.isStored_of_isScanner hslot hscanner
    rw [(h.isFresh hslot (Or.inr hignored)).isStored] at hstored
    contradiction

/-- The list of unresolved relationships has an entry for each open field of the model's own. -/
theorem Progress.unresolved_eq_map (h : Progress s known f (s.exported f.id).length) :
    f.unresolved = (f.fields.filter fun x => x.isOpen && x.IsOwn).map
      (Unresolved.ofField (s.name f.id)) := by
  have hown : (f.fields.filter fun x => x.isOpen && x.IsOwn) =
      ((f.slots.filter (·.expansion?.isNone)).map (·.field)).filter (·.isOpen) := by
    rw [← h.filter_isOwn, List.filter_filter]
  rw [h.unresolved_eq, hown, List.filter_map, List.map_map, List.filter_filter,
    ← List.filterMap_eq_map, List.filterMap_filter]
  apply List.filterMap_congr
  intro slot _
  exact slot.unresolved?_eq (s.name f.id)

end

theorem hereditary_isConsistent (s : Schema) :
    Hereditary s fun _ xs => ∀ x ∈ xs, x.IsConsistent := by
  apply Hereditary.of_field (P := fun _ x => x.IsConsistent)
  · exact fun _ x => x.isConsistent_unmarked_iff
  · intro known f k i d slot h hd hslot
    exact h.isConsistent hd hslot
  · intro id t d x _ _ _ hx
    exact hx.within d.name

theorem Made.unresolved {s : Schema} {known : Model → Prop} {m : Model} (h : Made s known m) :
    m.unresolved = (m.fields.filter fun x => x.isOpen && x.IsOwn).map
      (Unresolved.ofField (s.name m.id)) := by
  cases h with
  | @record f tableName hf hmade =>
    have hid : m.id = f.id := congrArg Model.id hmade
    have hfields : m.fields.map Field.unmarked = f.fields.map Field.unmarked :=
      congrArg Model.fields hmade
    rw [hid, Field.map_filter_congr_of_unmarked (fun _ => rfl) (fun _ => rfl) hfields,
      ← hf.unresolved_eq_map]
    exact congrArg Model.unresolved hmade
  | blank _ hblank =>
    rw [Model.eq_blank_of_unmarked hblank]
    rfl

end Resolution

namespace Registry

/-- After any session, each field that a stored model declares itself is ignored, stored, related or open,
and no two of these.  The open ones are listed in order.  No field at all shows two outcomes. -/
theorem accounts_session (s : Schema) (c : Config) (qs : List Request) (m : Model)
    (hm : m ∈ (serveAll s { config := c } qs).models) : m.Accounts (s.name m.id) := by
  have hoccurs := occurs_session s c qs
  have hconsistent : ∀ x ∈ m.fields, x.IsConsistent := by
    intro x hx
    have hrec := isRecord_of_mem_fields hoccurs hm hx
    exact (hereditary_isConsistent s).of_mem hoccurs hm hrec x hx
  refine ⟨?_, (hoccurs.traced.of_has hm).unresolved, hconsistent⟩
  intro x hx _
  exact (hconsistent x hx).count_outcomes

/-- The author of a post is left open. -/
theorem accounts_session_bylines :
    ∃ m ∈ (serveAll bylines {} [.get 0]).models, m.unresolved = [⟨"Author", "PostId"⟩] ∧
      m.Accounts (bylines.name m.id) := by
  have hmodel : ((serveAll bylines {} [.get 0]).models[2]?.map (·.unresolved)) =
      some [⟨"Author", "PostId"⟩] := by decide +kernel
  obtain ⟨m, hm, hunresolved⟩ := Option.map_eq_some_iff.mp hmodel
  have hmem := List.mem_of_getElem? hm
  exact ⟨m, hmem, hunresolved, accounts_session bylines {} [.get 0] m hmem⟩

end Registry
end RecordMapping
