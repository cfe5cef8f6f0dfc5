import RecordMapping.Proofs.Relationships
import RecordMapping.Proofs.Resolution.Flags
import RecordMapping.Proofs.Resolution.Related

/-!
Keys that relationships refer to.

A relationship names its key by a field's name and column.  The field was marked when the relationship was
found, and the model that holds it keeps it, marked, through all later steps.  Only an embedding is lost in
the end, when other fields take its place.
-/

namespace RecordMapping

open Resolution

/-- The model that holds the key of a relationship, unless a join table does. -/
inductive Relationship.HeldBy (owner : ModelId) (type : FieldType) (r : Relationship) :
    ModelId → Prop
  | own (hkind : r.kind = .belongsTo) : HeldBy owner type r owner
  | theirs {t : ModelId} (hkind : r.kind = .hasOne ∨ r.kind = .hasMany) (ht : type.Holds t) :
      HeldBy owner type r t

/-- The key names a field that is replaced by those of another model. -/
def Schema.Replaces (s : Schema) (id : ModelId) (key : KeyRef) : Prop :=
  ∃ d ∈ s.exported id, s.Embeds d ∧ (Field.ofDeclaration d).keyRef = key

namespace Resolution

/-- One of the fields goes by the key, and is marked. -/
def Carries (xs : List Field) (key : KeyRef) : Prop :=
  ∃ x ∈ xs, x.keyRef = key ∧ x.isForeignKey = true

namespace Pass

/-- The model is known, and carries the key unless it replaces the field. -/
def Keeps (s : Scope) (p : Pass) (id : ModelId) (key : KeyRef) : Prop :=
  ∃ xs, (id, xs) ∈ p.contents s ∧ (s.schema.Replaces id key ∨ Carries xs key)

/-- The key of the field's relationship is kept by the model that holds it. -/
def Answers (s : Scope) (p : Pass) (owner : ModelId) (x : Field) : Prop :=
  ∀ r, x.relationship? = some r → r.kind ≠ .manyToMany →
    ∃ h, r.HeldBy owner x.type h ∧ p.Keeps s h r.foreignKey

end Pass

/-- The keys of all relationships are kept that a known model declares. -/
def KeysKept (s : Scope) (p : Pass) : Prop :=
  ∀ id xs, (id, xs) ∈ p.contents s → ∀ x ∈ xs, x.IsOwn → p.Answers s id x

/-! ## Steps that keep keys -/

section

variable {s : Scope} {p p' : Pass} {id : ModelId} {key : KeyRef}

theorem carries_iff {xs : List Field} :
    Carries xs key ↔ (key, true) ∈ xs.map fun x => (x.keyRef, x.isForeignKey) := by
  simp [Carries]

/-- Keys are kept if each model stays known and loses no more than embeddings. -/
theorem Pass.Keeps.mono
    (hp : ∀ id xs, (id, xs) ∈ p.contents s → ∃ ys, (id, ys) ∈ p'.contents s ∧
      ∀ key, Carries xs key → s.schema.Replaces id key ∨ Carries ys key)
    (h : p.Keeps s id key) : p'.Keeps s id key := by
  obtain ⟨xs, hxs, hkey⟩ := h
  obtain ⟨ys, hys, hcarries⟩ := hp id xs hxs
  exact ⟨ys, hys, hkey.elim Or.inl (hcarries key)⟩

theorem Pass.Keeps.of_subset (hp : ∀ e ∈ p.contents s, e ∈ p'.contents s)
    (h : p.Keeps s id key) : p'.Keeps s id key :=
  h.mono fun _ xs hxs => ⟨xs, hp _ hxs, fun _ => Or.inr⟩

theorem Pass.Answers.mono {x y : Field}
    (hp : ∀ id key, p.Keeps s id key → p'.Keeps s id key)
    (hr : y.relationship? = x.relationship?) (ht : y.type = x.type) (h : p.Answers s id x) :
    p'.Answers s id y := by
  intro r hrel hkind
  rw [hr] at hrel
  obtain ⟨holder, hheld, hkeeps⟩ := h r hrel hkind
  rw [ht]
  exact ⟨holder, hheld, hp _ _ hkeeps⟩

end

/-! ## Marks -/

namespace Contents

def markAll (ms : List Mark) (e : Contents) : Contents := ms.foldl (fun e m => e.mark m) e

theorem getElem?_mark (m : Mark) (e : Contents) (i : Nat) :
    (e.mark m).2[i]? = e.2[i]?.map fun x => if m = ⟨e.1, i⟩ then x.marked else x := by
  by_cases hid : e.1 = m.model
  · rw [mark, if_pos hid, List.getElem?_modify, Option.map_eq_map]
    by_cases hi : m.field = i
    · have hm : m = ⟨e.1, i⟩ := by rw [hid, ← hi]
      simp [hm]
    · have hm : m ≠ ⟨e.1, i⟩ := fun h => hi (congrArg Mark.field h)
      simp [hi, hm]
  · have hm : m ≠ ⟨e.1, i⟩ := fun h => hid (congrArg Mark.model h).symm
    rw [mark_of_ne hid]
    simp [hm]

theorem markAll_fst (ms : List Mark) (e : Contents) : (e.markAll ms).1 = e.1 := by
  induction ms generalizing e with
  | nil => rfl
  | cons m ms ih => exact (ih (e.mark m)).trans (mark_fst m e)

theorem getElem?_markAll (ms : List Mark) (e : Contents) (i : Nat) :
    (e.markAll ms).2[i]? = e.2[i]?.map fun x => if ⟨e.1, i⟩ ∈ ms then x.marked else x := by
  induction ms generalizing e with
  | nil => simp [markAll]
  | cons m ms ih =>
    have hcons : (e.markAll (m :: ms)).2[i]? = ((e.mark m).markAll ms).2[i]? := rfl
    rw [hcons, ih, getElem?_mark, mark_fst, Option.map_map]
    congr 1
    funext x
    by_cases hm : m = ⟨e.1, i⟩
    · simp [hm]
    · simp [hm, Ne.symm hm]

theorem mem_markAll_inv {ms : List Mark} {e : Contents} {x : Field} (h : x ∈ (e.markAll ms).2) :
    ∃ y ∈ e.2, y.MarkedInto x := by
  obtain ⟨i, hi⟩ := List.getElem?_of_mem h
  rw [getElem?_markAll, Option.map_eq_some_iff] at hi
  obtain ⟨y, hy, rfl⟩ := hi
  refine ⟨y, List.mem_of_getElem? hy, ?_⟩
  split
  · exact Or.inr rfl
  · exact Or.inl rfl

theorem carries_markAll {e : Contents} {key : KeyRef} (h : Carries e.2 key) (ms : List Mark) :
    Carries (e.markAll ms).2 key := by
  obtain ⟨x, hx, href, hflag⟩ := h
  obtain ⟨i, hi⟩ := List.getElem?_of_mem hx
  have hmarked := e.getElem?_markAll ms i
  rw [hi, Option.map_some, Field.marked_of_isForeignKey hflag, ite_self] at hmarked
  exact ⟨x, List.mem_of_getElem? hmarked, href, hflag⟩

theorem carries_markAll_of_mem {ms : List Mark} {e : Contents} {i : Nat} {x : Field}
    (hx : e.2[i]? = some x) (hmark : ⟨e.1, i⟩ ∈ ms) : Carries (e.markAll ms).2 x.keyRef := by
  have hmarked := e.getElem?_markAll ms i
  rw [hx, Option.map_some, if_pos hmark] at hmarked
  exact ⟨x.marked, List.mem_of_getElem? hmarked, rfl, rfl⟩

theorem map_keyRef_markAll (ms : List Mark) (e : Contents) :
    (e.markAll ms).2.map Field.keyRef = e.2.map Field.keyRef := by
  apply List.ext_getElem?
  intro i
  rw [List.getElem?_map, List.getElem?_map, getElem?_markAll, Option.map_map]
  congr 1
  funext x
  show Field.keyRef (if _ then _ else _) = _
  split <;> rfl

end Contents

section

variable {s : Scope} {p : Pass} {ms : List Mark} {id : ModelId} {key : KeyRef}

theorem Pass.contents_markAll (hn : (p.ids s).Nodup) (ms : List Mark) :
    (p.markAll ms).contents s = (p.contents s).map (Contents.markAll ms) := by
  induction ms generalizing p with
  | nil =>
    show p.contents s = (p.contents s).map fun e => e
    rw [List.map_id']
  | cons m ms ih =>
    have hn' : ((p.mark m).ids s).Nodup := by rwa [ids_mark]
    rw [show p.markAll (m :: ms) = (p.mark m).markAll ms from rfl, ih hn', contents_mark hn,
      List.map_map]
    rfl

theorem Pass.contents_markAll_inv (hn : (p.ids s).Nodup) {xs : List Field}
    (h : (id, xs) ∈ (p.markAll ms).contents s) :
    ∃ ys, (id, ys) ∈ p.contents s ∧ xs = (Contents.markAll ms (id, ys)).2 := by
  rw [contents_markAll hn] at h
  obtain ⟨⟨id', ys⟩, hys, heq⟩ := List.mem_map.mp h
  have hid : id' = id := (Contents.markAll_fst ms (id', ys)).symm.trans (congrArg Prod.fst heq)
  rw [hid] at hys heq
  exact ⟨ys, hys, (congrArg Prod.snd heq).symm⟩

theorem Pass.Keeps.markAll (hn : (p.ids s).Nodup) (ms : List Mark) (h : p.Keeps s id key) :
    (p.markAll ms).Keeps s id key := by
  apply h.mono
  intro id xs hxs
  refine ⟨(Contents.markAll ms (id, xs)).2, ?_, fun key hkey =>
    Or.inr (Contents.carries_markAll hkey ms)⟩
  rw [Pass.contents_markAll hn]
  refine List.mem_map.mpr ⟨(id, xs), hxs, ?_⟩
  exact Prod.ext (Contents.markAll_fst ms _) rfl

theorem KeysKept.markAll (hn : (p.ids s).Nodup) (ms : List Mark) (h : KeysKept s p) :
    KeysKept s (p.markAll ms) := by
  intro id xs hxs x hx hown
  obtain ⟨ys, hys, rfl⟩ := Pass.contents_markAll_inv hn hxs
  obtain ⟨y, hy, hyx⟩ := Contents.mem_markAll_inv hx
  have hunmarked := hyx.unmarked_eq
  have hyown : y.IsOwn := by
    show y.unmarked.path.length = 1
    rw [← hunmarked]
    exact hown
  refine (h id ys hys y hy hyown).mono (fun _ _ hkeeps => hkeeps.markAll hn ms) ?_ ?_
  · show x.unmarked.relationship? = y.unmarked.relationship?
    rw [hunmarked]
  · show x.unmarked.type = y.unmarked.type
    rw [hunmarked]

/-- A key that a finding yields is kept once the marks of the finding are set. -/
theorem Pass.keeps_of_yields (hn : (p.ids s).Nodup) {side : Side} (h : side.Yields ms key)
    {xs : List Field} (hxs : (side.id, xs) ∈ (p.markAll ms).contents s)
    (hkeys : xs.map Field.keyRef = side.view.fields.map Field.keyRef) :
    (p.markAll ms).Keeps s side.id key := by
  obtain ⟨name, found, hlocate, rfl, hmark⟩ := h
  obtain ⟨y, hy, hyref⟩ := View.getElem?_of_locate? hlocate
  refine ⟨xs, hxs, Or.inr ?_⟩
  obtain ⟨ys, -, rfl⟩ := Pass.contents_markAll_inv hn hxs
  have hkey : (ys.map Field.keyRef)[found.index]? = some found.ref := by
    rw [← Contents.map_keyRef_markAll ms (side.id, ys), hkeys, List.getElem?_map, hy,
      Option.map_some, hyref]
  rw [List.getElem?_map, Option.map_eq_some_iff] at hkey
  obtain ⟨x, hx, hxref⟩ := hkey
  rw [← hxref]
  exact Contents.carries_markAll_of_mem (e := (side.id, ys)) hx hmark

theorem Pass.exists_contents_of_view? {t : ModelId} {v : View} (h : p.view? s t = some v) :
    ∃ xs, (t, xs) ∈ p.contents s ∧ xs.map Field.keyRef = v.fields.map Field.keyRef := by
  rcases p.view?_cases s h with ⟨f, hf, rfl, rfl⟩ | ⟨-, m, hm, rfl, rfl⟩
  · exact ⟨_, List.mem_append_left _ (List.mem_map_of_mem hf), rfl⟩
  · have houtcome : m.unmarked ∈ (p.outcome s).map Model.unmarked :=
      (p.mem_unmarked_outcome_iff s _).mpr (List.mem_map_of_mem hm)
    obtain ⟨n, hn, hnm⟩ := List.mem_map.mp houtcome
    have hid : n.id = m.id := by
      show n.unmarked.id = m.unmarked.id
      rw [hnm]
    refine ⟨n.fields, ?_, ?_⟩
    · rw [← hid]
      exact List.mem_append_right _ (List.mem_map_of_mem hn)
    · exact Field.map_congr_of_unmarked (fun _ => rfl) (congrArg Model.fields hnm)

end

/-! ## Settling and leaving -/

section

variable {s : Scope} {p : Pass} {frame : Frame} {rest : List Frame} {ks : List Nat} {k : Nat}

theorem Pass.contents_of_cons (hf : p.frames = frame :: rest) :
    p.contents s = Contents.ofFrame frame :: contents s { p with frames := rest } := by
  simp [contents, outcome, hf]

theorem Pass.contents_modifyTop (hf : p.frames = frame :: rest) (g : Frame → Frame) :
    (p.modifyTop g).contents s =
      Contents.ofFrame (g frame) :: contents s { p with frames := rest } := by
  simp [contents, outcome, modifyTop, hf]

theorem Pass.contents_leave (hf : p.frames = frame :: rest) (tableName : String) :
    (p.leave tableName).contents s =
      contents s { p with frames := rest } ++ [Contents.ofModel (frame.toModel tableName)] := by
  rw [leave, hf]
  exact contents_finish s { p with frames := rest } _

theorem Pass.Keeps.settle (hf : p.frames = frame :: rest) (v : View) {id : ModelId} {key : KeyRef}
    (h : p.Keeps s id key) : (p.modifyTop (·.settle s.schema k v)).Keeps s id key := by
  apply h.mono
  intro id xs hxs
  rw [Pass.contents_of_cons hf] at hxs
  rw [Pass.contents_modifyTop hf]
  rcases List.mem_cons.mp hxs with heq | hxs
  · obtain ⟨rfl, rfl⟩ := Prod.mk.inj heq
    refine ⟨((frame.settle s.schema k v).slots.map (·.field)), ?_, ?_⟩
    · rw [← frame.settle_id s.schema k v]
      exact List.mem_cons_self
    · intro key hkey
      have hslots := Frame.map_slots_settle
        (g := fun slot => (slot.field.keyRef, slot.field.isForeignKey))
        (fun _ _ slot o => by cases o <;> rfl) s.schema frame k v
      rw [carries_iff, List.map_map] at hkey
      refine Or.inr ?_
      rw [carries_iff, List.map_map]
      exact hslots ▸ hkey
  · exact ⟨xs, List.mem_cons_of_mem _ hxs, fun key => Or.inr⟩

theorem Pass.Keeps.leave {known : Model → Prop} (hf : p.frames = frame :: rest)
    (hprogress : Progress s.schema known frame k) (tableName : String) {id : ModelId} {key : KeyRef}
    (h : p.Keeps s id key) : (p.leave tableName).Keeps s id key := by
  apply h.mono
  intro id xs hxs
  rw [Pass.contents_of_cons hf] at hxs
  rw [Pass.contents_leave hf]
  rcases List.mem_cons.mp hxs with heq | hxs
  · obtain ⟨rfl, rfl⟩ := Prod.mk.inj heq
    refine ⟨frame.fields, List.mem_append_right _ List.mem_cons_self, ?_⟩
    rintro key ⟨x, hx, href, hflag⟩
    obtain ⟨slot, hmem, rfl⟩ := List.mem_map.mp hx
    obtain ⟨i, hslot⟩ := List.getElem?_of_mem hmem
    obtain ⟨d, hd, hfollows⟩ := hprogress.exists_declaration hslot
    cases hexpansion : slot.expansion? with
    | none =>
      have hfield : slot.field ∈ slot.fields := by simp [Slot.fields, hexpansion]
      exact Or.inr ⟨slot.field, List.mem_flatMap.mpr ⟨slot, hmem, hfield⟩, href, hflag⟩
    | some fields =>
      have hembeds := hprogress.embeds_of_expansion hd hslot (by simp [hexpansion])
      exact Or.inl ⟨d, List.mem_of_getElem? hd, hembeds, hfollows.keyRef.symm.trans href⟩
  · exact ⟨xs, List.mem_append_left _ hxs, fun key => Or.inr⟩

/-- The relationship that is found for a field has its key in one of two models.  Both keep it once the
marks are set. -/
theorem Pass.exists_keeps {d : FieldDeclaration} {v : View} {ms : List Mark} {xs : List Field}
    {r : Relationship} (hn : (p.ids s).Nodup)
    (hxs : (frame.id, xs) ∈ (p.markAll ms).contents s)
    (hkeys : xs.map Field.keyRef =
      (s.schema.declaredView frame.id).fields.map Field.keyRef)
    (hincluded : d.annotation.isExcluded = false)
    (hms : ms = declaredMarks s.schema frame.id d v)
    (hv : ∀ t, d.target? = some t → (p.markAll ms).view? s t = some v)
    (ho : (declaredFinding s.schema frame.id d v).outcome = .related r)
    (hkind : r.kind ≠ .manyToMany) :
    ∃ h, r.HeldBy frame.id d.type h ∧ (p.markAll ms).Keeps s h r.foreignKey := by
  obtain ⟨t, ht, hrelated⟩ := related_of_find ho
  have hmarks : ms = (declaredFinding s.schema frame.id d v).marks := by
    rw [hms, declaredMarks, if_neg (by simp [hincluded])]
  rw [← declaredFinding, ← hmarks] at hrelated
  cases hrelated with
  | joined hjoined => exact absurd hjoined hkind
  | own hown hyields => exact ⟨frame.id, .own hown, Pass.keeps_of_yields hn hyields hxs hkeys⟩
  | theirs htheirs hyields =>
    have htarget : d.target? = some t := FieldDeclaration.target?_eq_some_iff.mpr ⟨hincluded, ht⟩
    obtain ⟨ys, hys, hkeys'⟩ := Pass.exists_contents_of_view? (hv t htarget)
    exact ⟨t, .theirs htheirs ht, Pass.keeps_of_yields hn hyields hys hkeys'⟩

/-- A slot gets a relationship only if one was found. -/
theorem Pass.Answers.conclude {slot : Slot} (h : p.Answers s frame.id slot.field)
    (keyless : Bool) (fields : List Field) {o : Outcome}
    (ho : ∀ r, o = .related r → r.kind ≠ .manyToMany →
      ∃ h, r.HeldBy frame.id slot.field.type h ∧ p.Keeps s h r.foreignKey) :
    p.Answers s frame.id (slot.conclude keyless fields o).field := by
  cases o with
  | column scanner => exact h
  | embedded => exact h
  | unresolved foreignKey => exact h
  | related r =>
    intro r' hr' hkind
    obtain rfl : r = r' := Option.some.inj hr'
    exact ho r rfl hkind

theorem Traced.keysKept_settle {d : FieldDeclaration} {v : View} {ms : List Mark}
    (hn : (p.ids s).Nodup) (h : Traced s ⟨p.markAll ms, k :: ks⟩)
    (hf : (p.markAll ms).frames = frame :: rest)
    (hd : (s.schema.exported frame.id)[k]? = some d)
    (hms : ms = declaredMarks s.schema frame.id d v)
    (hv : ∀ t, d.target? = some t → (p.markAll ms).view? s t = some v)
    (hkept : KeysKept s (p.markAll ms)) :
    KeysKept s ((p.markAll ms).modifyTop (·.settle s.schema k v)) := by
  have hprogress := (h.top hf).1
  have htop : (frame.id, frame.slots.map (·.field)) ∈ (p.markAll ms).contents s := by
    rw [Pass.contents_of_cons hf]
    exact List.mem_cons_self
  have hkeep : ∀ id key, (p.markAll ms).Keeps s id key →
      ((p.markAll ms).modifyTop (·.settle s.schema k v)).Keeps s id key :=
    fun _ _ hkeeps => hkeeps.settle hf v
  intro id xs hxs x hx hown
  rw [Pass.contents_modifyTop hf] at hxs
  -- Only the topmost model has changed, and of its slots only the one that is settled.
  rcases List.mem_cons.mp hxs with heq | hxs
  · obtain ⟨rfl, rfl⟩ := Prod.mk.inj heq
    rw [Frame.settle_id]
    obtain ⟨slot', hmem, rfl⟩ := List.mem_map.mp hx
    obtain ⟨j, hj⟩ := List.getElem?_of_mem hmem
    obtain ⟨slot, hslot, hcase⟩ := Frame.slots_settle_inv hj
    obtain ⟨d', hd', hfollows⟩ := hprogress.exists_declaration hslot
    have hbefore : (p.markAll ms).Answers s frame.id slot.field :=
      hkept _ _ htop slot.field (List.mem_map_of_mem (List.mem_of_getElem? hslot))
        hfollows.isOwn
    rcases hcase with ⟨rfl, -⟩ | ⟨rfl, hignored, rfl⟩
    · exact hbefore.mono hkeep rfl rfl
    · obtain rfl : d = d' := Option.some.inj (hd.symm.trans hd')
      rw [hprogress.finding_eq hfollows]
      refine (hbefore.conclude frame.primary.isEmpty v.fields ?_).mono hkeep rfl rfl
      intro r ho hkind
      rw [hfollows.type]
      exact Pass.exists_keeps hn htop hprogress.keyRefs
        (hfollows.isIgnored.symm.trans hignored) hms hv ho hkind
  · refine (hkept id xs ?_ x hx hown).mono hkeep rfl rfl
    rw [Pass.contents_of_cons hf]
    exact List.mem_cons_of_mem _ hxs

end

theorem KeysKept.enter {s : Scope} {p : Pass} (h : KeysKept s p) (new : ModelId) :
    KeysKept s (p.enter s new) := by
  have hkeep : ∀ id key, p.Keeps s id key → (p.enter s new).Keeps s id key := by
    intro id key hkeeps
    apply hkeeps.of_subset
    intro e he
    rw [Pass.contents_enter]
    exact List.mem_cons_of_mem _ he
  intro id xs hxs x hx hown
  rw [Pass.contents_enter] at hxs
  rcases List.mem_cons.mp hxs with heq | hxs
  · obtain ⟨rfl, rfl⟩ := Prod.mk.inj heq
    obtain ⟨d, -, rfl⟩ := List.mem_map.mp hx
    intro r hr
    contradiction
  · exact (h id xs hxs x hx hown).mono hkeep rfl rfl

theorem KeysKept.blank {s : Scope} {p : Pass} (h : KeysKept s p) (new : ModelId) :
    KeysKept s (p.finish (.blank new)) := by
  have hkeep : ∀ id key, p.Keeps s id key → (p.finish (.blank new)).Keeps s id key := by
    intro id key hkeeps
    apply hkeeps.of_subset
    intro e he
    rw [Pass.contents_finish]
    exact List.mem_append_left _ he
  intro id xs hxs x hx hown
  rw [Pass.contents_finish] at hxs
  rcases List.mem_append.mp hxs with hxs | hxs
  · exact (h id xs hxs x hx hown).mono hkeep rfl rfl
  · obtain ⟨-, rfl⟩ := Prod.mk.inj (List.mem_singleton.mp hxs)
    exact absurd hx List.not_mem_nil

theorem KeysKept.leave {s : Scope} {p : Pass} {frame : Frame} {rest : List Frame}
    {known : Model → Prop} (h : KeysKept s p) (hf : p.frames = frame :: rest)
    (hprogress : Progress s.schema known frame (s.schema.exported frame.id).length)
    (tableName : String) : KeysKept s (p.leave tableName) := by
  have hkeep : ∀ id key, p.Keeps s id key → (p.leave tableName).Keeps s id key :=
    fun _ _ hkeeps => hkeeps.leave hf hprogress tableName
  have hcontents := Pass.contents_of_cons (s := s) hf
  intro id xs hxs x hx hown
  rw [Pass.contents_leave hf] at hxs
  rcases List.mem_append.mp hxs with hxs | hxs
  · refine (h id xs ?_ x hx hown).mono hkeep rfl rfl
    rw [hcontents]
    exact List.mem_cons_of_mem _ hxs
  · obtain ⟨rfl, rfl⟩ := Prod.mk.inj (List.mem_singleton.mp hxs)
    -- What replaces an embedding is not the model's own, so that the field stands in a slot.
    obtain ⟨j, d, slot, -, hslot, -, rfl⟩ := hprogress.slot_of_isOwn hx hown
    have htop : (frame.id, frame.slots.map (·.field)) ∈ p.contents s := by
      rw [hcontents]
      exact List.mem_cons_self
    have hslot' : slot.field ∈ frame.slots.map (·.field) :=
      List.mem_map_of_mem (List.mem_of_getElem? hslot)
    exact (h frame.id _ htop slot.field hslot' hown).mono hkeep rfl rfl

theorem Step.keysKept {s : Scope} {q : Demand} {floor : Nat} {a b : Stage}
    (h : Step s q floor a b) (hn : (a.pass.ids s).Nodup) (htraced : Traced s a)
    (ha : KeysKept s a.pass) : KeysKept s b.pass := by
  cases h with
  | enter hdue hnew hr => exact ha.enter _
  | blank hdue hnew hr => exact ha.blank _
  | leave hf hfloor => exact ha.leave hf (htraced.top hf).1 _
  | @settle p frame rest k ks d hf hd ht hfloor =>
    obtain ⟨v, -, hview, heq⟩ := htraced.settle_eq hf hd ht
    obtain ⟨frame₁, rest₁, hf₁, hid₁⟩ :=
      Pass.frames_markAll_of_cons hf (declaredMarks s.schema frame.id d v)
    show KeysKept s (p.settle s k)
    rw [heq]
    refine Traced.keysKept_settle hn (htraced.markAll _) hf₁ (hid₁ ▸ hd) (by rw [hid₁]) ?_
      (ha.markAll hn _)
    intro t hdt
    have hknown : (p.markAll (declaredMarks s.schema frame.id d v)).knows s t = true := by
      rw [Pass.knows_markAll]
      exact ht t hdt
    obtain ⟨w, hw⟩ := Option.isSome_iff_exists.mp hknown
    have hside : w = v := by
      rw [← hview t hdt, Pass.side, hw]
      rfl
    rw [hw, hside]

theorem Occurs.keysKept {s : Scope} {a : Stage} (h : Occurs s a) : KeysKept s a.pass := by
  induction h with
  | start schema singularTables => exact fun id xs hxs => absurd hxs List.not_mem_nil
  | step hocc hstep ih => exact hstep.keysKept hocc.nodup hocc.traced ih
  | @publish s p hp ih =>
    have hcontents := Pass.contents_publish hp
    intro id xs hxs x hx hown r hr hkind
    rw [hcontents] at hxs
    obtain ⟨holder, hheld, ys, hys, hkey⟩ := ih id xs hxs x hx hown r hr hkind
    exact ⟨holder, hheld, ys, by rw [hcontents]; exact hys, hkey⟩

end Resolution
end RecordMapping
