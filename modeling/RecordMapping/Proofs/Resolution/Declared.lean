import RecordMapping.Proofs.Resolution.Settled

/-!
How a model looks to others.

A model is looked at while it is open, when it has been finished, and when it has been stored.  The
views are alike, and like the view of its declaration, as long as the model is open or embeds no other
one.  The names and columns of its fields are fixed from the start.  The column for join tables is that
of the first tagged field, and `id` without one: a field that becomes the primary key later is named so.
-/

namespace RecordMapping

open Resolution

/-! ## The declaration as a view -/

namespace Schema

/-- What can be read of a model before it is resolved. -/
def declaredView (s : Schema) (id : ModelId) : View :=
  if s.isRecord id then (Frame.ofDeclarations id (s.exported id)).view else viewModel (.blank id)

def declaredSide (s : Schema) (id : ModelId) : Side := ⟨id, s.name id, s.declaredView id⟩

/-- The fields that are tagged as primary key, as references of a frame. -/
def tagged (s : Schema) (id : ModelId) : List PrimaryRef :=
  (Frame.ofDeclarations id (s.exported id)).primary

theorem isRecord_declaredView (s : Schema) (id : ModelId) :
    (s.declaredView id).isRecord = s.isRecord id := by
  unfold declaredView
  cases hr : s.isRecord id <;> rfl

section

variable {s : Schema} {id : ModelId} (hr : s.isRecord id = true)

include hr

theorem fields_declaredView :
    (s.declaredView id).fields = (s.exported id).map Field.ofDeclaration := by
  rw [declaredView, if_pos hr]
  exact List.map_map

theorem key?_declaredView : (s.declaredView id).key? =
    ((s.exported id).map Field.ofDeclaration).find? (·.isPrimaryKey) := by
  rw [← fields_declaredView hr, declaredView, if_pos hr]
  rfl

end

end Schema

namespace Resolution

/-! ## Lists that go together -/

theorem forall₂_of_getElem? {α β : Type} {R : α → β → Prop} {xs : List α} {ys : List β}
    (hlen : xs.length = ys.length)
    (h : ∀ (i : Nat) (x : α) (y : β), xs[i]? = some x → ys[i]? = some y → R x y) :
    List.Forall₂ R xs ys := by
  rw [List.forall₂_iff_get]
  refine ⟨hlen, ?_⟩
  intro i hi hi'
  exact h i _ _ (List.getElem?_eq_getElem hi) (List.getElem?_eq_getElem hi')

theorem getElem?_of_forall₂ {α β : Type} {R : α → β → Prop} {xs : List α} {ys : List β}
    (h : List.Forall₂ R xs ys) {i : Nat} {x : α} {y : β} (hx : xs[i]? = some x)
    (hy : ys[i]? = some y) : R x y := by
  obtain ⟨hlt, rfl⟩ := List.getElem?_eq_some_iff.mp hx
  obtain ⟨hlt', rfl⟩ := List.getElem?_eq_some_iff.mp hy
  exact (List.forall₂_iff_get.mp h).2 i hlt hlt'

theorem exists_of_forall₂ {α β : Type} {R : α → β → Prop} {xs : List α} {ys : List β}
    (h : List.Forall₂ R xs ys) {x : α} (hx : x ∈ xs) : ∃ y ∈ ys, R x y := by
  induction h with
  | nil => exact absurd hx List.not_mem_nil
  | cons hxy _ ih =>
    rcases List.mem_cons.mp hx with rfl | hx
    · exact ⟨_, List.mem_cons_self, hxy⟩
    · obtain ⟨y, hy, hxy⟩ := ih hx
      exact ⟨y, List.mem_cons_of_mem _ hy, hxy⟩

theorem rel_find? {α β : Type} {R : α → β → Prop} {p : α → Bool} {q : β → Bool} {xs : List α}
    {ys : List β} (h : List.Forall₂ (fun x y => p x = q y ∧ R x y) xs ys) :
    Option.Rel R (xs.find? p) (ys.find? q) := by
  induction h with
  | nil => exact .none
  | cons hxy _ ih =>
    rw [List.find?_cons, List.find?_cons, hxy.1]
    split
    · exact .some hxy.2
    · exact ih

theorem map_find?_eq {α β γ : Type} {p : α → Bool} {q : β → Bool} {g : α → γ} {h : β → γ}
    {xs : List α} {ys : List β} (hxy : List.Forall₂ (fun x y => p x = q y ∧ g x = h y) xs ys) :
    (xs.find? p).map g = (ys.find? q).map h := by
  have hrel := rel_find? hxy
  generalize xs.find? p = x? at hrel ⊢
  generalize ys.find? q = y? at hrel ⊢
  cases hrel with
  | none => rfl
  | some heq => exact congrArg some heq

theorem map_eq_of_forall₂ {α β γ : Type} {g : α → γ} {h : β → γ} {xs : List α} {ys : List β}
    (hxy : List.Forall₂ (fun x y => g x = h y) xs ys) : xs.map g = ys.map h := by
  induction hxy with
  | nil => rfl
  | cons hxy _ ih => rw [List.map_cons, List.map_cons, hxy, ih]

theorem map_filter_eq_of_forall₂ {α β γ : Type} {p : α → Bool} {q : β → Bool} {g : α → γ}
    {h : β → γ} {xs : List α} {ys : List β}
    (hxy : List.Forall₂ (fun x y => p x = q y ∧ g x = h y) xs ys) :
    (xs.filter p).map g = (ys.filter q).map h := by
  induction hxy with
  | nil => rfl
  | cons hxy _ ih =>
    rw [List.filter_cons, List.filter_cons, hxy.1]
    split
    · rw [List.map_cons, List.map_cons, hxy.2, ih]
    · exact ih

theorem filterMap_zipIdx_read {α β : Type} (p : α → Bool) (g : α → β) {xs : List α}
    {read : Nat → Option β} (hread : ∀ (i : Nat) (x : α), xs[i]? = some x → read i = some (g x)) :
    (xs.zipIdx.filterMap fun (x, i) => if p x then read i else none) = (xs.filter p).map g :=
  calc
    _ = xs.zipIdx.filterMap fun (x, _) => if p x then some (g x) else none := by
      apply List.filterMap_congr
      intro ⟨x, i⟩ hxi
      show (if p x then read i else none) = if p x then some (g x) else none
      rw [hread i x (List.mem_zipIdx_iff_getElem?.mp hxi)]
    _ = (xs.zipIdx.map Prod.fst).filterMap fun x => if p x then some (g x) else none := by
      rw [List.filterMap_map]
      rfl
    _ = (xs.filter p).map g := by
      rw [List.zipIdx_map_fst, ← List.filterMap_eq_map, List.filterMap_filter]
      rfl

/-! ## The primary key -/

theorem Frame.primary_ofDeclarations (id : ModelId) (ds : List FieldDeclaration) :
    (Frame.ofDeclarations id ds).primary =
      (ds.map Field.ofDeclaration).zipIdx.filterMap fun (x, i) =>
        if x.isPrimaryKey then some (.direct i) else none := by
  simp only [Frame.ofDeclarations, List.zipIdx_map, List.filterMap_map]
  rfl

theorem tagged_eq_nil_iff {s : Schema} {id : ModelId} :
    s.tagged id = [] ↔ ∀ d ∈ s.exported id, (Field.ofDeclaration d).isPrimaryKey = false := by
  rw [Schema.tagged, Frame.primary_ofDeclarations, List.filterMap_eq_nil_iff]
  constructor
  · intro h d hd
    obtain ⟨i, hi⟩ := List.getElem?_of_mem hd
    have hmem : (Field.ofDeclaration d, i) ∈ ((s.exported id).map Field.ofDeclaration).zipIdx := by
      rw [List.mem_zipIdx_iff_getElem?, List.getElem?_map, hi]
      rfl
    have hnone := h _ hmem
    simpa using hnone
  · rintro h ⟨x, i⟩ hxi
    obtain ⟨d, hd, rfl⟩ := List.mem_map.mp (List.fst_mem_of_mem_zipIdx hxi)
    simp [h d hd]

theorem Frame.primary_conclude (f : Frame) (i : Nat) (fields : List Field) (o : Outcome) :
    (f.conclude i fields o).primary =
      match o with
      | .column _ =>
        if f.primary.isEmpty && f.slots[i]?.any (·.field.column == "id") then [.direct i]
        else f.primary
      | .embedded => f.primary ++ fields.zipIdx.filterMap fun (x, offset) =>
        if x.isPrimaryKey then some (.embedded i offset) else none
      | .related _ | .unresolved _ => f.primary := by
  cases o with
  | column scanner =>
    simp only [conclude, store]
    split <;> rfl
  | related r => rfl
  | unresolved foreignKey =>
    simp only [conclude, leaveUnresolved]
    split <;> rfl
  | embedded => rfl

/-- A field of the primary key that was found later: one of an embedded model, or one with the column
`id` where no field is tagged. -/
def MayBeFound (s : Schema) (id : ModelId) : PrimaryRef → Prop
  | .direct i =>
    s.tagged id = [] ∧ ∃ d, (s.exported id)[i]? = some d ∧ (Field.ofDeclaration d).column = "id"
  | .embedded i _ => ∃ d, (s.exported id)[i]? = some d ∧ s.Embeds d

section

variable {s : Schema} {known : Model → Prop} {f : Frame} {k i : Nat} {d : FieldDeclaration}
  {slot : Slot}

theorem Slot.Follows.column (h : slot.Follows d) :
    slot.field.column = (Field.ofDeclaration d).column := congrArg KeyRef.column h.keyRef

/-- A slot turns out to be an embedding if and only if it was declared as one. -/
theorem finding_outcome_eq_embedded_iff {v : View} (hslot : slot.Follows d)
    (hignored : slot.field.isIgnored = false) (hv : Readable s known f.id d.target? v) :
    (f.finding s slot v).outcome = .embedded ↔ s.Embeds d := by
  rw [hslot.isIgnored] at hignored
  have htarget : ∀ {t : ModelId}, d.type.role = .one t → v.isRecord = s.isRecord t := by
    intro t hrole
    have ht : d.target? = some t := by
      simp [FieldDeclaration.target?, hignored, FieldType.associated?, hrole,
        FieldType.Role.target?]
    rw [ht] at hv
    exact hv.isRecord
  rw [Frame.finding, find_outcome_eq_embedded_iff, hslot.type, hslot.settings, hslot.anonymous,
    Bool.or_eq_true, Field.settings_ofDeclaration hignored]
  constructor
  · rintro ⟨t, hrole, hrecord, hembeds⟩
    have hrecord' : s.isRecord t = true := (htarget hrole).symm.trans hrecord
    exact ⟨hignored, hembeds, t, FieldType.role_eq_one_iff.mp hrole, hrecord'⟩
  · rintro ⟨-, hembeds, t, ht, hrecord⟩
    have hrole : d.type.role = .one t := FieldType.role_eq_one_iff.mpr ht
    exact ⟨t, hrole, (htarget hrole).trans hrecord, hembeds⟩

theorem Progress.embeds_of_expansion (h : Progress s known f k)
    (hd : (s.exported f.id)[i]? = some d) (hslot : f.slots[i]? = some slot)
    (hexpansion : slot.expansion? ≠ none) : s.Embeds d := by
  induction h using Progress.induct generalizing slot with
  | start id hr =>
    obtain ⟨d', -, rfl⟩ := List.mem_map.mp (List.mem_of_getElem? hslot)
    exact absurd rfl hexpansion
  | mark f k i hf ih =>
    obtain ⟨slot₀, hslot₀, rfl | rfl⟩ := Frame.slots_mark_inv hslot
    · exact ih hd hslot₀ hexpansion
    · exact ih hd hslot₀ hexpansion
  | settle f k d' v hf hdk hv ih =>
    rw [Frame.settle_id] at hd
    obtain ⟨slot₀, hslot₀, ⟨rfl, -⟩ | ⟨rfl, hignored, rfl⟩⟩ := Frame.slots_settle_inv hslot
    · exact ih hd hslot₀ hexpansion
    · obtain rfl : d' = d := Option.some.inj (hdk.symm.trans hd)
      have hfollows := hf.follows hd hslot₀
      have hfresh := hf.isFresh hslot₀ (Or.inl (Nat.le_refl k))
      cases ho : (f.finding s slot₀ v).outcome with
      | embedded => exact (finding_outcome_eq_embedded_iff hfollows hignored hv).mp ho
      | column scanner =>
        rw [ho] at hexpansion
        exact absurd hfresh.expansion hexpansion
      | related r =>
        rw [ho] at hexpansion
        exact absurd hfresh.expansion hexpansion
      | unresolved foreignKey =>
        rw [ho] at hexpansion
        exact absurd hfresh.expansion hexpansion

theorem Progress.primary (h : Progress s known f k) :
    ∃ found, f.primary = s.tagged f.id ++ found ∧ ∀ ref ∈ found, MayBeFound s f.id ref := by
  induction h using Progress.induct with
  | start id hr => exact ⟨[], (List.append_nil _).symm, by simp⟩
  | mark f k i hf ih => exact ih
  | settle f k d v hf hd hv ih =>
    obtain ⟨found, hprimary, hfound⟩ := ih
    obtain ⟨slot, hslot, hfollows⟩ := hf.exists_slot hd
    rw [Frame.settle_id]
    cases hignored : slot.field.isIgnored with
    | true =>
      rw [Frame.slots_settle_of_ignored s v hslot hignored]
      exact ⟨found, hprimary, hfound⟩
    | false =>
      rw [Frame.settle_of_not_ignored s v hslot hignored, Frame.primary_conclude]
      cases ho : (f.finding s slot v).outcome with
      | column scanner =>
        by_cases hfirst : (f.primary.isEmpty && f.slots[k]?.any (·.field.column == "id")) = true
        · simp only [hslot, Option.any_some, Bool.and_eq_true, List.isEmpty_iff, beq_iff_eq,
            hfollows.column] at hfirst
          have htagged : s.tagged f.id = [] := by
            rw [hprimary] at hfirst
            exact (List.append_eq_nil_iff.mp hfirst.1).1
          refine ⟨[.direct k], ?_, ?_⟩
          · simp [htagged, hslot, hfirst.1, hfollows.column, hfirst.2]
          · intro ref href
            rw [List.mem_singleton.mp href]
            exact ⟨htagged, d, hd, hfirst.2⟩
        · exact ⟨found, by simp only [hfirst]; exact hprimary, hfound⟩
      | related r => exact ⟨found, hprimary, hfound⟩
      | unresolved foreignKey => exact ⟨found, hprimary, hfound⟩
      | embedded =>
        refine ⟨found ++ _, by rw [hprimary, List.append_assoc], ?_⟩
        intro ref href
        rcases List.mem_append.mp href with href | href
        · exact hfound ref href
        · obtain ⟨⟨x, offset⟩, -, hx⟩ := List.mem_filterMap.mp href
          by_cases hkey : x.isPrimaryKey = true
          · rw [← Option.some.inj ((if_pos hkey).symm.trans hx)]
            exact ⟨d, hd, (finding_outcome_eq_embedded_iff hfollows hignored hv).mp ho⟩
          · simp [hkey] at hx

/-- Tagged fields are flagged, and others only if no field is tagged and their column is `id`. -/
theorem Progress.isPrimaryKey (h : Progress s known f k) (hd : (s.exported f.id)[i]? = some d)
    (hslot : f.slots[i]? = some slot) :
    ((Field.ofDeclaration d).isPrimaryKey = true → slot.field.isPrimaryKey = true) ∧
      (slot.field.isPrimaryKey = true → (Field.ofDeclaration d).isPrimaryKey = true ∨
        s.tagged f.id = [] ∧ (Field.ofDeclaration d).column = "id") := by
  induction h using Progress.induct generalizing slot with
  | start id hr =>
    rw [Frame.slots_ofDeclarations_inv hd hslot]
    exact ⟨fun h => h, Or.inl⟩
  | mark f k i hf ih =>
    obtain ⟨slot₀, hslot₀, rfl | rfl⟩ := Frame.slots_mark_inv hslot
    · exact ih hd hslot₀
    · have h₀ := ih hd hslot₀
      exact h₀
  | settle f k d' v hf hdk hv ih =>
    rw [Frame.settle_id] at hd ⊢
    obtain ⟨slot₀, hslot₀, ⟨rfl, -⟩ | ⟨rfl, hignored, rfl⟩⟩ := Frame.slots_settle_inv hslot
    · exact ih hd hslot₀
    · obtain ⟨htag, hflag⟩ := ih hd hslot₀
      have hfollows := hf.follows hd hslot₀
      cases ho : (f.finding s slot₀ v).outcome with
      | column scanner =>
        simp only [Slot.conclude, Slot.mapField, Bool.or_eq_true, Bool.and_eq_true,
          List.isEmpty_iff, beq_iff_eq, hfollows.column]
        refine ⟨fun h => Or.inl (htag h), ?_⟩
        rintro (h | ⟨hfirst, hcolumn⟩)
        · exact hflag h
        · obtain ⟨found, hprimary, -⟩ := hf.primary
          rw [hprimary] at hfirst
          exact Or.inr ⟨(List.append_eq_nil_iff.mp hfirst).1, hcolumn⟩
      | related r => exact ⟨htag, hflag⟩
      | unresolved foreignKey => exact ⟨htag, hflag⟩
      | embedded => exact ⟨htag, hflag⟩

/-! ## Views -/

theorem Progress.forall₂_follows (h : Progress s known f k) :
    List.Forall₂ (fun slot d => slot.Follows d) f.slots (s.exported f.id) :=
  forall₂_of_getElem? h.length_slots fun _ _ _ hslot hd => h.follows hd hslot

theorem Progress.keyRefs (h : Progress s known f k) :
    (f.slots.map (·.field)).map Field.keyRef = (s.declaredView f.id).fields.map Field.keyRef := by
  rw [Schema.fields_declaredView h.isRecord, List.map_map, List.map_map]
  exact map_eq_of_forall₂ (h.forall₂_follows.imp fun _ _ hslot => hslot.keyRef)

/-- An open model looks as it was declared. -/
theorem Progress.view_alike (h : Progress s known f k) : f.view.Alike (s.declaredView f.id) := by
  refine ⟨h.keyRefs, h.isRecord.symm.trans (s.isRecord_declaredView f.id).symm, ?_⟩
  rw [View.primaryColumn_eq, View.primaryColumn_eq, Schema.key?_declaredView h.isRecord]
  show ((((f.slots.map (·.field)).find? (·.isPrimaryKey)).map (·.column)).getD "id") = _
  rw [List.find?_map, List.find?_map, Option.map_map, Option.map_map]
  by_cases htagged : s.tagged f.id = []
  · have hdeclared : (s.exported f.id).find? ((·.isPrimaryKey) ∘ Field.ofDeclaration) = none :=
      List.find?_eq_none.mpr fun d hd => Bool.not_eq_true _ ▸ tagged_eq_nil_iff.mp htagged d hd
    rw [hdeclared]
    cases hfind : f.slots.find? ((·.isPrimaryKey) ∘ (·.field)) with
    | none => rfl
    | some slot =>
      obtain ⟨i, hslot⟩ := List.getElem?_of_mem (List.mem_of_find?_eq_some hfind)
      obtain ⟨d, hd, hfollows⟩ := h.exists_declaration hslot
      have hflag : slot.field.isPrimaryKey = true := by simpa using List.find?_some hfind
      rcases (h.isPrimaryKey hd hslot).2 hflag with hpk | ⟨-, hcolumn⟩
      · rw [tagged_eq_nil_iff.mp htagged d (List.mem_of_getElem? hd)] at hpk
        contradiction
      · exact hfollows.column.trans hcolumn
  · refine congrArg (Option.getD · "id") (map_find?_eq (forall₂_of_getElem? h.length_slots ?_))
    intro i slot d hslot hd
    obtain ⟨htag, hflag⟩ := h.isPrimaryKey hd hslot
    refine ⟨Bool.eq_iff_iff.mpr ⟨fun hpk => ?_, htag⟩, (h.follows hd hslot).column⟩
    rcases hflag hpk with hpk | ⟨hnil, -⟩
    · exact hpk
    · exact absurd hnil htagged

/-! ## Finished models -/

theorem Progress.expansion_of_isFlat (h : Progress s known f k) (hflat : s.IsFlat f.id)
    (hslot : f.slots[i]? = some slot) : slot.expansion? = none := by
  obtain ⟨d, hd, -⟩ := h.exists_declaration hslot
  by_contra hne
  exact hflat d (List.mem_of_getElem? hd) (h.embeds_of_expansion hd hslot hne)

theorem Progress.flatMap_fields (h : Progress s known f k) (hflat : s.IsFlat f.id)
    {slots : List Slot} (hslots : slots ⊆ f.slots) :
    slots.flatMap Slot.fields = slots.map (·.field) := by
  rw [List.map_eq_flatMap]
  apply List.flatMap_congr
  intro slot hmem
  obtain ⟨i, hslot⟩ := List.getElem?_of_mem (hslots hmem)
  rw [Slot.fields, h.expansion_of_isFlat hflat hslot]
  rfl

theorem Progress.place?_direct (h : Progress s known f k) (hflat : s.IsFlat f.id)
    (hslot : f.slots[i]? = some slot) : f.place? (.direct i) = some i := by
  have hstart : f.start i = i := by
    rw [Frame.start, h.flatMap_fields hflat (List.take_subset i f.slots), List.length_map,
      List.length_take]
    exact Nat.min_eq_left (Nat.le_of_lt (List.getElem?_eq_some_iff.mp hslot).1)
  simp [Frame.place?, hslot, h.expansion_of_isFlat hflat hslot, hstart]

/-- The column that a reference of the primary key leads to, as it is declared. -/
def declaredColumn (s : Schema) (id : ModelId) : PrimaryRef → Option String
  | .direct i => (s.exported id)[i]?.map fun d => (Field.ofDeclaration d).column
  | .embedded _ _ => none

theorem filterMap_declaredColumn (s : Schema) (id : ModelId) :
    (s.tagged id).filterMap (declaredColumn s id) =
      (((s.exported id).map Field.ofDeclaration).filter (·.isPrimaryKey)).map (·.column) := by
  have hread : ∀ (i : Nat) (x : Field), ((s.exported id).map Field.ofDeclaration)[i]? = some x →
      declaredColumn s id (.direct i) = some x.column := by
    intro i x hx
    rw [List.getElem?_map, Option.map_eq_some_iff] at hx
    obtain ⟨d, hd, rfl⟩ := hx
    rw [declaredColumn, hd]
    rfl
  rw [Schema.tagged, Frame.primary_ofDeclarations, List.filterMap_filterMap,
    ← filterMap_zipIdx_read _ _ hread]
  apply List.filterMap_congr
  intro ⟨x, i⟩ _
  by_cases hx : x.isPrimaryKey = true
  · simp [hx]
  · simp [hx]

theorem Progress.columns_primaryFields (h : Progress s known f k) (hflat : s.IsFlat f.id)
    (tableName : String) :
    (f.toModel tableName).primaryFields.map (·.column) =
      f.primary.filterMap (declaredColumn s f.id) := by
  have hfields : (f.toModel tableName).fields = f.slots.map (·.field) :=
    h.flatMap_fields hflat (List.Subset.refl _)
  obtain ⟨found, hprimary, hfound⟩ := h.primary
  show ((f.primary.filterMap f.place?).filterMap ((f.toModel tableName).fields[·]?)).map _ = _
  rw [List.filterMap_filterMap, List.map_filterMap]
  apply List.filterMap_congr
  intro ref href
  cases ref with
  | direct i =>
    cases hslot : f.slots[i]? with
    | none =>
      have hd : (s.exported f.id)[i]? = none := by
        rw [List.getElem?_eq_none_iff, ← h.length_slots]
        exact List.getElem?_eq_none_iff.mp hslot
      simp [Frame.place?, declaredColumn, hslot, hd]
    | some slot =>
      obtain ⟨d, hd, hfollows⟩ := h.exists_declaration hslot
      simp [h.place?_direct hflat hslot, declaredColumn, hfields, hslot, hd, hfollows.column]
  | embedded i offset =>
    rw [hprimary, List.mem_append] at href
    rcases href with href | href
    · rw [Schema.tagged, Frame.primary_ofDeclarations] at href
      obtain ⟨⟨x, j⟩, -, hx⟩ := List.mem_filterMap.mp href
      by_cases hkey : x.isPrimaryKey = true
      · simp [hkey] at hx
      · simp [hkey] at hx
    · obtain ⟨d, hd, hembeds⟩ := hfound _ href
      exact absurd hembeds (hflat d (List.mem_of_getElem? hd))

/-- A flat model that is finished looks as it was declared. -/
theorem Progress.viewModel_alike (h : Progress s known f k) (hflat : s.IsFlat f.id)
    (tableName : String) : (viewModel (f.toModel tableName)).Alike (s.declaredView f.id) := by
  refine ⟨?_, h.isRecord.symm.trans (s.isRecord_declaredView f.id).symm, ?_⟩
  · rw [← h.keyRefs]
    exact congrArg (List.map Field.keyRef) (h.flatMap_fields hflat (List.Subset.refl _))
  · obtain ⟨found, hprimary, hfound⟩ := h.primary
    rw [View.primaryColumn_eq, View.primaryColumn_eq, Schema.key?_declaredView h.isRecord]
    show ((f.toModel tableName).primaryFields.head?.map _).getD _ = _
    rw [← List.head?_map, h.columns_primaryFields hflat, hprimary, List.filterMap_append,
      filterMap_declaredColumn, List.head?_append, List.head?_map, List.head?_filter]
    cases hfind : ((s.exported f.id).map Field.ofDeclaration).find? (·.isPrimaryKey) with
    | some x => rfl
    | none =>
      -- Without a tagged field, whatever was found is named `id`.
      cases hhead : (found.filterMap (declaredColumn s f.id)).head? with
      | none => rfl
      | some column =>
        obtain ⟨ref, href, hcolumn⟩ := List.mem_filterMap.mp (List.mem_of_mem_head? hhead)
        cases ref with
        | embedded i offset => contradiction
        | direct i =>
          obtain ⟨-, d, hd, hid⟩ := hfound _ href
          rw [declaredColumn, hd, Option.map_some, hid] at hcolumn
          exact (Option.some.inj hcolumn).symm

/-- A model that a field refers to looks as it was declared, unless it is a finished one that embeds
another one. -/
theorem Readable.alike {owner t : ModelId} {v : View} (h : Readable s known owner (some t) v)
    (ht : t = owner ∨ s.IsFlat t) : v.Alike (s.declaredView t) := by
  cases h with
  | opened hg => exact hg.view_alike
  | @finished g m tableName hg hne hm hgm =>
    have hflat : s.IsFlat g.id := ht.resolve_left hne
    exact (Resolution.viewModel_alike hgm).trans (hg.viewModel_alike hflat tableName)
  | blank hr =>
    rw [Schema.declaredView, if_neg (by simp [hr])]
    exact View.Alike.refl _

end
end Resolution
end RecordMapping
