import Mathlib.Data.List.Induction
import RecordMapping.Proofs.Lookup

/-!
The places of the primary key.

While a model is open, a field of its key is known by its slot, or by its slot and its place in what the
slot has taken over.  The tagged fields are known from the start, and each slot that is settled adds what
is found with it: all fields of the key that it takes over, or itself if it is the fallback.  The places
follow in the end, when it is known how many fields stand before each slot.
-/

namespace RecordMapping

open Resolution

/-- The model declares the field itself, and tags it as primary key. -/
def Field.isTagged (x : Field) : Bool := x.IsOwn && x.settings.contains "PRIMARY_KEY"

/-- The primary key of the model lists its flagged fields, those that are tagged first. -/
structure Model.ListsKey (s : Schema) (m : Model) : Prop where
  nodup : m.primary.Nodup
  mem_iff : ∀ i, i ∈ m.primary ↔ ∃ x, m.fields[i]? = some x ∧ x.isPrimaryKey = true
  order : m.primary =
    m.fields.findIdxs (·.isTagged) ++ m.fields.findIdxs fun x => x.isPrimaryKey && !x.isTagged
  tagged : m.isRecord = true → (m.fields.filter (·.isTagged)).map Field.skeleton =
    ((s.exported m.id).filter fun d => (Field.ofDeclaration d).isPrimaryKey && !s.Embeds d).map
      Field.ofDeclaration

namespace Field

theorem isPrimaryKey_skeleton (x : Field) :
    x.skeleton.isPrimaryKey = x.settings.contains "PRIMARY_KEY" := rfl

theorem contains_settings_ofDeclaration (d : FieldDeclaration) :
    (ofDeclaration d).settings.contains "PRIMARY_KEY" = (ofDeclaration d).isPrimaryKey := by
  rw [← isPrimaryKey_skeleton, skeleton_ofDeclaration]

end Field

/-! ## Places in lists -/

theorem findIdxs_congr {α : Type} {p q : α → Bool} {xs : List α} (h : ∀ x ∈ xs, p x = q x)
    (i : Nat) : xs.findIdxs p i = xs.findIdxs q i := by
  induction xs generalizing i with
  | nil => rfl
  | cons x xs ih =>
    rw [List.forall_mem_cons] at h
    rw [List.findIdxs_cons, List.findIdxs_cons, h.1, ih h.2]

/-- The places in a list that is put together are those in its parts, behind what comes before. -/
theorem findIdxs_flatMap {α β : Type} (p : β → Bool) (g : α → List β) (xs : List α) :
    (xs.flatMap g).findIdxs p =
      xs.zipIdx.flatMap fun (x, i) => (g x).findIdxs p ((xs.take i).flatMap g).length := by
  induction xs using List.reverseRecOn with
  | nil => rfl
  | append_singleton xs x ih =>
    have hbefore : (xs.zipIdx.flatMap fun (y, i) =>
        (g y).findIdxs p (((xs ++ [x]).take i).flatMap g).length) =
          xs.zipIdx.flatMap fun (y, i) => (g y).findIdxs p ((xs.take i).flatMap g).length := by
      apply List.flatMap_congr
      intro ⟨y, i⟩ hmem
      have hlt : i < xs.length :=
        (List.getElem?_eq_some_iff.mp (List.mem_zipIdx_iff_getElem?.mp hmem)).1
      simp only [List.take_append_of_le_length (Nat.le_of_lt hlt)]
    rw [List.zipIdx_append, List.flatMap_append, List.flatMap_append, hbefore, List.findIdxs_append,
      ih]
    simp

theorem findIdxs_congr_of_unmarked {p : Field → Bool} (hp : ∀ x, p x.unmarked = p x)
    {xs ys : List Field} (h : xs.map Field.unmarked = ys.map Field.unmarked) :
    xs.findIdxs p = ys.findIdxs p := by
  have hmap : ∀ zs : List Field, zs.findIdxs p = (zs.map p).findIdxs id := by
    intro zs
    rw [List.findIdxs_map]
    rfl
  rw [hmap, Field.map_congr_of_unmarked hp h, ← hmap]

theorem flatMap_zipIdx {α β : Type} (g : α → Nat → List β) (xs : List α) :
    (xs.zipIdx.flatMap fun (x, i) => g x i) = (xs.map g).zipIdx.flatMap fun (h, i) => h i := by
  rw [List.zipIdx_map, List.flatMap_map]
  rfl

namespace Resolution

/-! ## References -/

namespace Slot

/-- The reference to a field that is tagged. -/
def tagged (slot : Slot) (i : Nat) : List PrimaryRef :=
  if slot.field.settings.contains "PRIMARY_KEY" then [.direct i] else []

/-- The references that settling the slot has added. -/
def found (slot : Slot) (i : Nat) : List PrimaryRef :=
  match slot.expansion? with
  | some xs => (xs.findIdxs (·.isPrimaryKey)).map (.embedded i)
  | none =>
    if slot.field.isPrimaryKey && !slot.field.settings.contains "PRIMARY_KEY" then [.direct i]
    else []

theorem tagged_ofDeclaration (d : FieldDeclaration) (i : Nat) :
    (ofDeclaration d).tagged i =
      (if (Field.ofDeclaration d).isPrimaryKey then some (.direct i) else none).toList := by
  rw [tagged, ofDeclaration, Field.contains_settings_ofDeclaration]
  split <;> rfl

theorem found_eq_nil {slot : Slot} (hexpansion : slot.expansion? = none)
    (hkey : slot.field.isPrimaryKey = slot.field.settings.contains "PRIMARY_KEY") (i : Nat) :
    slot.found i = [] := by
  simp [found, hexpansion, hkey]

theorem found_conclude_column {slot : Slot} (hexpansion : slot.expansion? = none)
    (hkey : slot.field.isPrimaryKey = slot.field.settings.contains "PRIMARY_KEY") {first : Bool}
    (hfirst : first = true → slot.field.settings.contains "PRIMARY_KEY" = false)
    (fields : List Field) (scanner : Bool) (i : Nat) :
    (slot.conclude first fields (.column scanner)).found i =
      if first && slot.field.column == "id" then [.direct i] else [] := by
  simp only [found, conclude, mapField, hexpansion, hkey]
  cases first with
  | false => simp
  | true => simp [hfirst rfl]

theorem found_conclude_embedded (slot : Slot) (first : Bool) (fields : List Field) (i : Nat) :
    (slot.conclude first fields .embedded).found i = fields.zipIdx.filterMap fun (x, offset) =>
      if x.isPrimaryKey then some (.embedded i offset) else none := by
  show ((fields.map (·.within slot.field.name)).findIdxs (·.isPrimaryKey)).map _ = _
  rw [List.findIdxs_map, List.findIdxs_eq_filterMap_zipIdx, List.map_filterMap]
  apply List.filterMap_congr
  intro ⟨x, offset⟩ _
  show Option.map _ (bif x.isPrimaryKey then some offset else none) =
    if x.isPrimaryKey then some (PrimaryRef.embedded i offset) else none
  cases x.isPrimaryKey <;> rfl

end Slot

section

variable {s : Schema} {known : Model → Prop} {f : Frame} {k i : Nat} {d : FieldDeclaration}
  {slot : Slot}

/-- A slot whose turn has not come, or never comes, is flagged if and only if it is tagged. -/
theorem Progress.isPrimaryKey_eq (h : Progress s known f k) (hslot : f.slots[i]? = some slot)
    (hi : k ≤ i ∨ slot.field.isIgnored = true) :
    slot.field.isPrimaryKey = slot.field.settings.contains "PRIMARY_KEY" := by
  induction h using Progress.induct generalizing slot with
  | start id hr =>
    obtain ⟨d, -, rfl⟩ := List.mem_map.mp (List.mem_of_getElem? hslot)
    exact (Field.contains_settings_ofDeclaration d).symm
  | mark f k j hf ih =>
    obtain ⟨slot₀, hslot₀, rfl | rfl⟩ := Frame.slots_mark_inv hslot
    · exact ih hslot₀ hi
    · have hkept := ih hslot₀ hi
      exact hkept
  | settle f k d v hf hd hv ih =>
    obtain ⟨slot₀, hslot₀, ⟨rfl, -⟩ | ⟨rfl, hignored, rfl⟩⟩ := Frame.slots_settle_inv hslot
    · exact ih hslot₀ (hi.imp_left Nat.le_of_succ_le)
    · rw [Slot.isIgnored_conclude, hignored] at hi
      rcases hi with hi | hi
      · exact absurd hi (Nat.not_succ_le_self k)
      · exact absurd hi Bool.false_ne_true

theorem Progress.tagged_eq (h : Progress s known f k) :
    s.tagged f.id = f.slots.zipIdx.flatMap fun (slot, i) => slot.tagged i := by
  have hkeys : f.slots.map Slot.tagged =
      (s.exported f.id).map fun d => (Slot.ofDeclaration d).tagged := by
    apply map_eq_of_forall₂
    refine h.forall₂_follows.imp fun slot d hslot => ?_
    funext i
    rw [Slot.tagged, Slot.tagged, hslot.settings, (Slot.Follows.ofDeclaration d).settings]
  rw [flatMap_zipIdx, hkeys, Schema.tagged, Frame.primary_ofDeclarations,
    List.filterMap_eq_flatMap_toList, List.zipIdx_map, List.zipIdx_map, List.flatMap_map,
    List.flatMap_map]
  apply List.flatMap_congr
  rintro ⟨d, i⟩ _
  exact (Slot.tagged_ofDeclaration d i).symm

theorem Progress.primary_settle {v : View} {slot' : Slot} (h : Progress s known f k)
    (hd : (s.exported f.id)[k]? = some d) (hslot' : (f.settle s k v).slots[k]? = some slot') :
    (f.settle s k v).primary = f.primary ++ slot'.found k := by
  obtain ⟨slot, hslot, hfollows⟩ := h.exists_slot hd
  have hexpansion := (h.isFresh hslot (Or.inl (Nat.le_refl k))).expansion
  have hkey := h.isPrimaryKey_eq hslot (Or.inl (Nat.le_refl k))
  cases hignored : slot.field.isIgnored with
  | true =>
    rw [Frame.slots_settle_of_ignored s v hslot hignored] at hslot' ⊢
    obtain rfl : slot = slot' := Option.some.inj (hslot.symm.trans hslot')
    rw [Slot.found_eq_nil hexpansion hkey, List.append_nil]
  | false =>
    have hconclude := Frame.settle_of_not_ignored s v hslot hignored
    rw [hconclude, Frame.slots_conclude, List.getElem?_modify_eq, hslot] at hslot'
    obtain rfl : _ = slot' := Option.some.inj hslot'
    -- Without a key so far, no field is tagged.
    have hfallback : f.primary = [] → slot.field.settings.contains "PRIMARY_KEY" = false := by
      intro hnil
      obtain ⟨found, hprimary, -⟩ := h.primary
      have htagged := (List.append_eq_nil_iff.mp (hprimary.symm.trans hnil)).1
      rw [hfollows.settings, Field.contains_settings_ofDeclaration]
      exact tagged_eq_nil_iff.mp htagged d (List.mem_of_getElem? hd)
    rw [hconclude, Frame.primary_conclude]
    show _ = f.primary ++ (slot.conclude _ _ _).found k
    cases (f.finding s slot v).outcome with
    | column scanner =>
      rw [Slot.found_conclude_column hexpansion hkey, hslot, Option.any_some]
      · by_cases hfirst : (f.primary.isEmpty && slot.field.column == "id") = true
        · have hnil : f.primary = [] := by
            rw [Bool.and_eq_true] at hfirst
            exact List.isEmpty_iff.mp hfirst.1
          rw [if_pos hfirst, if_pos hfirst, hnil]
          rfl
        · rw [if_neg hfirst, if_neg hfirst, List.append_nil]
      · intro hempty
        exact hfallback (List.isEmpty_iff.mp hempty)
    | related r =>
      show f.primary = f.primary ++ slot.found k
      rw [Slot.found_eq_nil hexpansion hkey, List.append_nil]
    | unresolved key =>
      rw [Slot.conclude, Slot.found_eq_nil hexpansion hkey, List.append_nil]
    | embedded => rw [Slot.found_conclude_embedded]

/-- The primary key of a frame has the tagged fields, and what was found with its slots. -/
theorem Progress.primary_eq (h : Progress s known f k) :
    f.primary = s.tagged f.id ++ (f.slots.take k).zipIdx.flatMap fun (slot, i) => slot.found i := by
  induction h using Progress.induct with
  | start id hr => exact (List.append_nil _).symm
  | mark f k j hf ih =>
    have hmarked : ∀ slot : Slot, (slot.mapField Field.marked).found = slot.found := fun _ => rfl
    show f.primary = s.tagged f.id ++
      ((f.slots.modify j (·.mapField Field.marked)).take k).zipIdx.flatMap _
    rw [flatMap_zipIdx, List.map_take, map_modify_of_comp hmarked, ← List.map_take,
      ← flatMap_zipIdx, ih]
  | settle f k d v hf hd hv ih =>
    obtain ⟨slot, hslot, -⟩ := (hf.settle hd hv).exists_slot
      (show (s.exported (f.settle s k v).id)[k]? = some d by rwa [Frame.settle_id])
    have hlength : (f.slots.take k).length = k := by
      have hlt := (List.getElem?_eq_some_iff.mp hd).1
      rw [List.length_take, hf.length_slots]
      exact Nat.min_eq_left (Nat.le_of_lt hlt)
    rw [Frame.settle_id, List.take_add_one, Frame.take_slots_settle, hslot, List.zipIdx_append,
      List.flatMap_append, ← List.append_assoc, ← ih, hf.primary_settle hd hslot, hlength]
    simp

/-! ## Places -/

/-- The fields of a slot with their places in the model. -/
theorem Progress.places (h : Progress s known f (s.exported f.id).length)
    (hslot : f.slots[i]? = some slot) :
    (slot.tagged i).filterMap f.place? = slot.fields.findIdxs (·.isTagged) (f.start i) ∧
      (slot.found i).filterMap f.place? =
        slot.fields.findIdxs (fun x => x.isPrimaryKey && !x.isTagged) (f.start i) := by
  cases hexpansion : slot.expansion? with
  | none =>
    obtain ⟨d, hd, hfollows⟩ := h.exists_declaration hslot
    have hfields : slot.fields = [slot.field] := by rw [Slot.fields, hexpansion]; rfl
    have htagged : slot.field.isTagged = slot.field.settings.contains "PRIMARY_KEY" := by
      simp [Field.isTagged, hfollows.isOwn]
    have hplace : f.place? (.direct i) = some (f.start i) := by
      simp [Frame.place?, hslot, hexpansion]
    rw [hfields, List.findIdxs_singleton, List.findIdxs_singleton, htagged, Slot.tagged, Slot.found,
      hexpansion]
    refine ⟨?_, ?_⟩
    · split <;> simp [hplace]
    · show List.filterMap _ (if _ then _ else _) = _
      split <;> simp [hplace]
  | some xs =>
    have hfields : slot.fields = xs := by rw [Slot.fields, hexpansion]; rfl
    have hplain : ∀ x ∈ xs, x.isTagged = false := by
      intro x hx
      have hown := h.not_isOwn_of_expansion hslot (by simp [hexpansion]) (hfields ▸ hx)
      simp [Field.isTagged, hown]
    have hdirect : f.place? (.direct i) = none := by simp [Frame.place?, hslot, hexpansion]
    rw [hfields]
    refine ⟨?_, ?_⟩
    · rw [List.findIdxs_eq_nil_iff.mpr hplain, Slot.tagged]
      split <;> simp [hdirect]
    · have hkeys : ∀ x ∈ xs, (x.isPrimaryKey && !x.isTagged) = x.isPrimaryKey := by
        intro x hx
        simp [hplain x hx]
      rw [findIdxs_congr hkeys, List.findIdxs_start, Slot.found, hexpansion, List.filterMap_map,
        ← List.filterMap_eq_map]
      apply List.filterMap_congr
      intro offset _
      show some (f.start i + offset) = some (offset + f.start i)
      rw [Nat.add_comm]

theorem Frame.filterMap_place? {f : Frame} {refs : Slot → Nat → List PrimaryRef} {p : Field → Bool}
    (hrefs : ∀ (i : Nat) (slot : Slot), f.slots[i]? = some slot →
      (refs slot i).filterMap f.place? = slot.fields.findIdxs p (f.start i)) :
    (f.slots.zipIdx.flatMap fun (slot, i) => refs slot i).filterMap f.place? =
      f.fields.findIdxs p := by
  rw [List.filterMap_flatMap, Frame.fields, findIdxs_flatMap]
  apply List.flatMap_congr
  rintro ⟨slot, i⟩ hmem
  exact hrefs i slot (List.mem_zipIdx_iff_getElem?.mp hmem)

/-- In the end, the places of the tagged fields come first, and then those of the others. -/
theorem Progress.places_toModel (h : Progress s known f (s.exported f.id).length)
    (tableName : String) :
    (f.toModel tableName).primary = f.fields.findIdxs (·.isTagged) ++
      f.fields.findIdxs fun x => x.isPrimaryKey && !x.isTagged := by
  have hprimary := h.primary_eq
  rw [List.take_of_length_le (Nat.le_of_eq h.length_slots), h.tagged_eq] at hprimary
  show f.primary.filterMap f.place? = _
  rw [hprimary, List.filterMap_append,
    Frame.filterMap_place? fun i slot hslot => (h.places hslot).1,
    Frame.filterMap_place? fun i slot hslot => (h.places hslot).2]

/-- A field that is tagged is part of the key. -/
theorem Progress.isPrimaryKey_of_isTagged (h : Progress s known f (s.exported f.id).length)
    {x : Field} (hx : x ∈ f.fields) (htagged : x.isTagged = true) : x.isPrimaryKey = true := by
  rw [Field.isTagged, Bool.and_eq_true, decide_eq_true_eq] at htagged
  obtain ⟨i, d, slot, hd, hslot, -, rfl⟩ := h.slot_of_isOwn hx htagged.1
  apply (h.isPrimaryKey hd hslot).1
  rw [← Field.contains_settings_ofDeclaration, ← (h.follows hd hslot).settings]
  exact htagged.2

/-- The tagged fields are those that were declared so, but for embeddings. -/
theorem Progress.skeleton_tagged (h : Progress s known f (s.exported f.id).length) :
    (f.fields.filter (·.isTagged)).map Field.skeleton =
      ((s.exported f.id).filter fun d => (Field.ofDeclaration d).isPrimaryKey && !s.Embeds d).map
        Field.ofDeclaration := by
  have hslots : List.Forall₂ (fun slot d =>
      (slot.field.settings.contains "PRIMARY_KEY" && slot.expansion?.isNone) =
        ((Field.ofDeclaration d).isPrimaryKey && !s.Embeds d) ∧
          slot.field.skeleton = Field.ofDeclaration d) f.slots (s.exported f.id) := by
    apply forall₂_of_getElem? h.length_slots
    intro i slot d hslot hd
    have hfollows := h.follows hd hslot
    have hplain : slot.expansion?.isNone = !decide (s.Embeds d) := by
      by_cases hembeds : s.Embeds d
      · have hsome : slot.expansion?.isSome = true :=
          Option.isSome_iff_ne_none.mpr fun hnone => h.not_embeds hd hslot hnone hembeds
        simp [hembeds, hsome]
      · have hnone : slot.expansion? = none := by
          by_contra hne
          exact hembeds (h.embeds_of_expansion hd hslot hne)
        simp [hembeds, hnone]
    refine ⟨?_, hfollows.field⟩
    rw [hfollows.settings, Field.contains_settings_ofDeclaration, hplain]
  have htagged : (f.fields.filter (·.isTagged)) =
      ((f.fields.filter (·.IsOwn)).filter (·.settings.contains "PRIMARY_KEY")) := by
    rw [List.filter_filter]
    exact List.filter_congr fun x _ => Bool.and_comm _ _
  rw [htagged, h.filter_isOwn, List.filter_map, List.filter_filter, List.map_map]
  exact map_filter_eq_of_forall₂ hslots

end

/-! ## Models -/

theorem Made.primary {s : Schema} {known : Model → Prop} {m : Model} (h : Made s known m) :
    m.primary = m.fields.findIdxs (·.isTagged) ++
      m.fields.findIdxs fun x => x.isPrimaryKey && !x.isTagged := by
  cases h with
  | @record f tableName hf hmade =>
    have hfields : m.fields.map Field.unmarked = f.fields.map Field.unmarked :=
      congrArg Model.fields hmade
    rw [findIdxs_congr_of_unmarked (fun _ => rfl) hfields,
      findIdxs_congr_of_unmarked (fun _ => rfl) hfields, ← hf.places_toModel tableName]
    show m.unmarked.primary = (f.toModel tableName).unmarked.primary
    rw [hmade]
  | blank _ hblank =>
    rw [Model.eq_blank_of_unmarked hblank]
    rfl

theorem Made.isPrimaryKey_of_isTagged {s : Schema} {known : Model → Prop} {m : Model}
    (h : Made s known m) {x : Field} (hx : x ∈ m.fields) (htagged : x.isTagged = true) :
    x.isPrimaryKey = true := by
  cases h with
  | @record f tableName hf hmade =>
    have hfields : m.fields.map Field.unmarked = f.fields.map Field.unmarked :=
      congrArg Model.fields hmade
    obtain ⟨y, hy, hyx⟩ := List.mem_map.mp (hfields ▸ List.mem_map_of_mem hx)
    show x.unmarked.isPrimaryKey = true
    rw [← hyx]
    apply hf.isPrimaryKey_of_isTagged hy
    show y.unmarked.isTagged = true
    rw [hyx]
    exact htagged
  | blank _ hblank => exact absurd hx (Model.not_mem_fields_of_unmarked hblank x)

theorem Made.skeleton_tagged {s : Schema} {known : Model → Prop} {m : Model} (h : Made s known m)
    (hrec : m.isRecord = true) : (m.fields.filter (·.isTagged)).map Field.skeleton =
      ((s.exported m.id).filter fun d => (Field.ofDeclaration d).isPrimaryKey && !s.Embeds d).map
        Field.ofDeclaration := by
  cases h with
  | @record f tableName hf hmade =>
    have hid : m.id = f.id := congrArg Model.id hmade
    have hfields : m.fields.map Field.unmarked = f.fields.map Field.unmarked :=
      congrArg Model.fields hmade
    rw [hid, Field.map_filter_congr_of_unmarked (fun _ => rfl) (fun _ => rfl) hfields,
      hf.skeleton_tagged]
  | blank _ hblank =>
    rw [Model.eq_blank_of_unmarked hblank] at hrec
    contradiction

end Resolution

namespace Registry

/-- After any session, the primary key of a stored model lists the places of its flagged fields, each
once.  The fields that are tagged in the model itself come first, in the order of their declaration,
and then the others in the order of the fields. -/
theorem listsKey_session (s : Schema) (c : Config) (qs : List Request) (m : Model)
    (hm : m ∈ (serveAll s { config := c } qs).models) : m.ListsKey s := by
  have hmade := (occurs_session s c qs).traced.of_has hm
  have horder := hmade.primary
  refine ⟨?_, ?_, horder, hmade.skeleton_tagged⟩
  · rw [horder, List.nodup_append]
    refine ⟨List.nodup_findIdxs, List.nodup_findIdxs, ?_⟩
    rintro i hi _ hi' rfl
    obtain ⟨hlt, htagged⟩ := List.mem_findIdxs_iff_exists_getElem_pos.mp hi
    obtain ⟨_, hother⟩ := List.mem_findIdxs_iff_exists_getElem_pos.mp hi'
    simp [htagged] at hother
  · intro i
    rw [horder, List.mem_append, List.mem_findIdxs_iff_exists_getElem_pos,
      List.mem_findIdxs_iff_exists_getElem_pos]
    constructor
    · rintro (⟨hlt, htagged⟩ | ⟨hlt, hother⟩)
      · exact ⟨m.fields[i], List.getElem?_eq_getElem hlt,
          hmade.isPrimaryKey_of_isTagged (List.getElem_mem hlt) htagged⟩
      · rw [Bool.and_eq_true] at hother
        exact ⟨m.fields[i], List.getElem?_eq_getElem hlt, hother.1⟩
    · rintro ⟨x, hx, hkey⟩
      obtain ⟨hlt, rfl⟩ := List.getElem?_eq_some_iff.mp hx
      cases htagged : m.fields[i].isTagged with
      | true => exact Or.inl ⟨hlt, htagged⟩
      | false => exact Or.inr ⟨hlt, by simp [hkey, htagged]⟩

/-- Parts with a number of their own, behind a stamp that they embed. -/
def parts : Schema :=
  { declarations :=
      [{ name := "Part"
         fields :=
          [{ name := "Stamp", type := .model 1, anonymous := true },
           { name := "Number", type := .scalar "i64", annotation := { mapping := "primary_key" } },
           { name := "Id", type := .scalar "i64" }] },
       { name := "Stamp"
         fields :=
          [{ name := "Maker", type := .scalar "String" },
           { name := "Serial", type := .scalar "i64",
             annotation := { mapping := "primary_key" } }] }] }

/-- The number of a part comes first, although its serial number stands before it. -/
theorem listsKey_session_parts :
    ∃ m ∈ (serveAll parts {} [.get 0]).models, m.id = 0 ∧ m.primary = [2, 1] ∧
      m.ListsKey parts := by
  have hmodel : ((serveAll parts {} [.get 0]).models[1]?.map fun m => (m.id, m.primary)) =
      some (0, [2, 1]) := by decide +kernel
  obtain ⟨m, hm, heq⟩ := Option.map_eq_some_iff.mp hmodel
  obtain ⟨hid, hprimary⟩ := Prod.mk.inj heq
  have hmem := List.mem_of_getElem? hm
  exact ⟨m, hmem, hid, hprimary, listsKey_session parts {} [.get 0] m hmem⟩

end Registry
end RecordMapping
