import RecordMapping.Proofs.Resolution.Trace

/-!
The marks that a pass has set.

A mark may be seen in three places: on a slot of a frame, on a field of a finished model, and among the
marks that are kept for the stored models.  `Pass.contents` brings them together, with stored models as
they will be when the pass is published.  Marking then is one operation, and publishing does nothing.
`Pass.flags` leaves of the fields no more than their flags.
-/

namespace RecordMapping

open Resolution

namespace Resolution

theorem modify_of_const {β : Type} (b : β) (l : List β) (i : Nat) :
    l.modify i (fun _ => b) = l.set i b := by
  apply List.ext_getElem?
  intro j
  rw [List.getElem?_modify, List.getElem?_set]
  by_cases hij : i = j
  · by_cases hlt : j < l.length
    · simp [hij, hlt]
    · simp [hij, hlt]
  · simp [hij]

/-- Settling a slot keeps all that concluding it keeps. -/
theorem Frame.map_slots_settle {α : Type} {g : Slot → α}
    (hg : ∀ first fields slot o, g (Slot.conclude first fields slot o) = g slot) (s : Schema)
    (f : Frame) (i : Nat) (v : View) : (f.settle s i v).slots.map g = f.slots.map g := by
  cases hslot : f.slots[i]? with
  | none => simp only [Frame.settle, hslot]
  | some slot =>
    cases hignored : slot.field.isIgnored with
    | true => rw [Frame.slots_settle_of_ignored s v hslot hignored]
    | false =>
      rw [Frame.settle_of_not_ignored s v hslot hignored, Frame.slots_conclude]
      exact map_modify_of_comp (fun slot => hg _ _ slot _) f.slots i

/-! ## Fields and flags of a model -/

/-- A model with its fields, finished or not. -/
abbrev Contents := ModelId × List Field

/-- A model with the flags of its fields. -/
abbrev Flags := ModelId × List Bool

namespace Flags

def ofFrame (f : Frame) : Flags := (f.id, f.slots.map (·.field.isForeignKey))

def ofModel (m : Model) : Flags := (m.id, m.fields.map (·.isForeignKey))

def mark (m : Mark) (e : Flags) : Flags :=
  if e.1 = m.model then (e.1, e.2.set m.field true) else e

theorem mark_of_ne {m : Mark} {e : Flags} (h : e.1 ≠ m.model) : e.mark m = e := if_neg h

end Flags

namespace Contents

def ofFrame (f : Frame) : Contents := (f.id, f.slots.map (·.field))

def ofModel (m : Model) : Contents := (m.id, m.fields)

def mark (m : Mark) (e : Contents) : Contents :=
  if e.1 = m.model then (e.1, e.2.modify m.field Field.marked) else e

def flags (e : Contents) : Flags := (e.1, e.2.map (·.isForeignKey))

theorem mark_of_ne {m : Mark} {e : Contents} (h : e.1 ≠ m.model) : e.mark m = e := if_neg h

theorem mark_fst (m : Mark) (e : Contents) : (e.mark m).1 = e.1 := by
  unfold mark
  split <;> rfl

theorem mark_ofFrame (m : Mark) (f : Frame) :
    (ofFrame f).mark m = ofFrame (if f.id = m.model then f.mark m.field else f) := by
  by_cases hid : f.id = m.model
  · have hmodify := map_modify_of_semiconj (g := fun slot : Slot => slot.field)
      (h := (·.mapField Field.marked)) (k := Field.marked) (fun _ => rfl) f.slots m.field
    rw [if_pos hid]
    exact (if_pos hid).trans (congrArg (Prod.mk f.id) hmodify.symm)
  · rw [if_neg hid]
    exact mark_of_ne hid

theorem mark_ofModel (m : Mark) (n : Model) :
    (ofModel n).mark m = ofModel (if n.id = m.model then n.mark m.field else n) := by
  by_cases hid : n.id = m.model
  · rw [if_pos hid]
    exact if_pos hid
  · rw [if_neg hid]
    exact mark_of_ne hid

/-- A mark sets the flag of the field. -/
theorem flags_mark (m : Mark) (e : Contents) : (e.mark m).flags = e.flags.mark m := by
  by_cases hid : e.1 = m.model
  · have hflags := map_modify_of_semiconj (g := Field.isForeignKey) (h := Field.marked)
      (k := fun _ => true) (fun _ => rfl) e.2 m.field
    rw [modify_of_const] at hflags
    rw [mark, if_pos hid]
    exact (congrArg (Prod.mk e.1) hflags).trans (if_pos hid).symm
  · have hflags : e.flags.1 ≠ m.model := hid
    rw [mark_of_ne hid, Flags.mark_of_ne hflags]

theorem flags_ofFrame (f : Frame) : (ofFrame f).flags = Flags.ofFrame f := by
  rw [ofFrame, flags, List.map_map]
  rfl

end Contents

namespace Flags

theorem mem_map_mark_iff {m : Mark} {fs : List Flags} {id : ModelId} {bs : List Bool} :
    (id, bs) ∈ fs.map (mark m) ↔
      ∃ bs', (id, bs') ∈ fs ∧ (if id = m.model then bs'.set m.field true else bs') = bs := by
  constructor
  · intro h
    obtain ⟨⟨id', bs'⟩, he, heq⟩ := List.mem_map.mp h
    by_cases hid : id' = m.model
    · rw [mark, if_pos hid] at heq
      obtain ⟨rfl, rfl⟩ := Prod.mk.inj heq
      exact ⟨bs', he, if_pos hid⟩
    · rw [mark_of_ne hid] at heq
      obtain ⟨rfl, rfl⟩ := Prod.mk.inj heq
      exact ⟨bs', he, if_neg hid⟩
  · rintro ⟨bs', he, rfl⟩
    refine List.mem_map.mpr ⟨(id, bs'), he, ?_⟩
    by_cases hid : id = m.model
    · rw [if_pos hid]
      exact if_pos hid
    · rw [if_neg hid]
      exact mark_of_ne hid

theorem ofFrame_settle (s : Schema) (f : Frame) (i : Nat) (v : View) :
    ofFrame (f.settle s i v) = ofFrame f := by
  have hslots := Frame.map_slots_settle (g := fun slot => slot.field.isForeignKey)
    (fun _ _ _ o => by cases o <;> rfl) s f i v
  rw [ofFrame, ofFrame, Frame.settle_id, hslots]

end Flags

namespace Pass

/-- The models that will be stored once the pass is published. -/
def outcome (s : Scope) (p : Pass) : List Model :=
  p.marks.foldl Registry.markStored s.stored ++ p.finished

/-- The fields of all models that are known. -/
def contents (s : Scope) (p : Pass) : List Contents :=
  p.frames.map Contents.ofFrame ++ (p.outcome s).map Contents.ofModel

/-- The flags of all models that are known. -/
def flags (s : Scope) (p : Pass) : List Flags :=
  p.frames.map Flags.ofFrame ++ (p.outcome s).map Flags.ofModel

/-- The field is marked. -/
def Flagged (s : Scope) (p : Pass) (id : ModelId) (i : Nat) : Prop :=
  ∃ bs, (id, bs) ∈ p.flags s ∧ bs[i]? = some true

/-- The model has a field at this place. -/
def HasField (s : Scope) (p : Pass) (id : ModelId) (i : Nat) : Prop :=
  ∃ bs, (id, bs) ∈ p.flags s ∧ i < bs.length

theorem mem_unmarked_outcome_iff (s : Scope) (p : Pass) (m : Model) :
    m ∈ (p.outcome s).map Model.unmarked ↔ p.Has s m := by
  rw [outcome, Has, models, List.map_append, List.map_append, Registry.unmarked_foldl_markStored,
    List.mem_append, List.mem_append]
  exact Or.comm

theorem flags_eq (s : Scope) (p : Pass) : p.flags s = (p.contents s).map Contents.flags := by
  rw [flags, contents, List.map_append, List.map_map, List.map_map]
  exact congrArg (· ++ _) (List.map_congr_left fun f _ => (Contents.flags_ofFrame f).symm)

theorem ids_contents_perm (s : Scope) (p : Pass) : ((p.contents s).map (·.1)).Perm (p.ids s) := by
  have hids : (p.contents s).map (·.1) =
      p.frames.map (·.id) ++ (s.stored.map (·.id) ++ p.finished.map (·.id)) := by
    rw [contents, outcome, ← Registry.ids_foldl_markStored p.marks s.stored]
    simp only [List.map_append, List.map_map]
    rfl
  rw [hids, ids]
  exact List.perm_append_comm.append_left _

theorem ids_flags_perm (s : Scope) (p : Pass) : ((p.flags s).map (·.1)).Perm (p.ids s) := by
  rw [flags_eq, List.map_map]
  exact ids_contents_perm s p

theorem map_ofModel_outcome_mark {s : Scope} {p : Pass} (hn : (p.ids s).Nodup) (m : Mark) :
    ((p.mark m).outcome s).map Contents.ofModel =
      ((p.outcome s).map Contents.ofModel).map (Contents.mark m) := by
  cases hopen : p.frames.any (·.id == m.model) with
  | true =>
    -- No model that is done has the identity of an open one.
    have hsame : (p.mark m).outcome s = p.outcome s := by simp only [mark, hopen, if_true, outcome]
    have hn' := (ids_contents_perm s p).nodup_iff.mpr hn
    rw [contents, List.map_append, List.nodup_append] at hn'
    obtain ⟨f, hf, hid⟩ := List.any_eq_true.mp hopen
    have hf' : m.model ∈ (p.frames.map Contents.ofFrame).map (·.1) := by
      rw [← beq_iff_eq.mp hid]
      exact List.mem_map_of_mem (List.mem_map_of_mem hf)
    rw [hsame]
    symm
    apply (List.map_congr_left ?_).trans (List.map_id _)
    intro e he
    exact Contents.mark_of_ne (hn'.2.2 _ hf' _ (List.mem_map_of_mem he)).symm
  | false =>
    have hmap : (p.mark m).outcome s =
        (p.outcome s).map fun n => if n.id = m.model then n.mark m.field else n := by
      simp [mark, hopen, outcome, Registry.markStored]
    rw [hmap, List.map_map, List.map_map]
    exact List.map_congr_left fun n _ => (Contents.mark_ofModel m n).symm

/-- A mark reaches its field, wherever the model is. -/
theorem contents_mark {s : Scope} {p : Pass} (hn : (p.ids s).Nodup) (m : Mark) :
    (p.mark m).contents s = (p.contents s).map (Contents.mark m) := by
  rw [contents, contents, List.map_append, map_ofModel_outcome_mark hn, frames_mark]
  congr 1
  rw [List.map_map, List.map_map]
  exact List.map_congr_left fun f _ => (Contents.mark_ofFrame m f).symm

theorem flags_mark {s : Scope} {p : Pass} (hn : (p.ids s).Nodup) (m : Mark) :
    (p.mark m).flags s = (p.flags s).map (Flags.mark m) := by
  rw [flags_eq, flags_eq, contents_mark hn, List.map_map, List.map_map]
  exact List.map_congr_left fun e _ => e.flags_mark m

theorem ids_mark (s : Scope) (p : Pass) (m : Mark) : (p.mark m).ids s = p.ids s := by
  rw [ids, ids, frames_ids_mark, finished_ids_mark]

theorem hasField_mark {s : Scope} {p : Pass} (hn : (p.ids s).Nodup) (m : Mark) (id : ModelId)
    (i : Nat) : (p.mark m).HasField s id i ↔ p.HasField s id i := by
  have hlength : ∀ bs : List Bool,
      (if id = m.model then bs.set m.field true else bs).length = bs.length := by
    intro bs
    split
    · exact List.length_set
    · rfl
  simp only [HasField, flags_mark hn, Flags.mem_map_mark_iff]
  constructor
  · rintro ⟨_, ⟨bs, hbs, rfl⟩, hlt⟩
    rw [hlength] at hlt
    exact ⟨bs, hbs, hlt⟩
  · rintro ⟨bs, hbs, hlt⟩
    exact ⟨_, ⟨bs, hbs, rfl⟩, by rwa [hlength]⟩

theorem flagged_mark {s : Scope} {p : Pass} (hn : (p.ids s).Nodup) (m : Mark) (id : ModelId)
    (i : Nat) :
    (p.mark m).Flagged s id i ↔ p.Flagged s id i ∨ m = ⟨id, i⟩ ∧ p.HasField s id i := by
  simp only [Flagged, HasField, flags_mark hn, Flags.mem_map_mark_iff]
  constructor
  · rintro ⟨_, ⟨bs, hbs, rfl⟩, hflag⟩
    by_cases hm : m = ⟨id, i⟩
    · subst hm
      rw [if_pos rfl] at hflag
      have hlt := (List.getElem?_eq_some_iff.mp hflag).1
      rw [List.length_set] at hlt
      exact Or.inr ⟨rfl, bs, hbs, hlt⟩
    · refine Or.inl ⟨bs, hbs, ?_⟩
      by_cases hid : id = m.model
      · have hne : m.field ≠ i := by
          rintro rfl
          exact hm (hid ▸ rfl)
        rwa [if_pos hid, List.getElem?_set_ne hne] at hflag
      · rwa [if_neg hid] at hflag
  · rintro (⟨bs, hbs, hflag⟩ | ⟨rfl, bs, hbs, hlt⟩)
    · refine ⟨_, ⟨bs, hbs, rfl⟩, ?_⟩
      split
      · have hlt := (List.getElem?_eq_some_iff.mp hflag).1
        rw [List.getElem?_set]
        split
        · next hi => simp [hlt, hi]
        · exact hflag
      · exact hflag
    · refine ⟨_, ⟨bs, hbs, rfl⟩, ?_⟩
      rw [if_pos rfl, List.getElem?_set_self hlt]

/-- Marks set the flags that they name, where there are such fields, and no others. -/
theorem flagged_markAll {s : Scope} {p : Pass} (hn : (p.ids s).Nodup) (ms : List Mark)
    (id : ModelId) (i : Nat) :
    (p.markAll ms).Flagged s id i ↔ p.Flagged s id i ∨ ⟨id, i⟩ ∈ ms ∧ p.HasField s id i := by
  induction ms generalizing p with
  | nil => simp [markAll]
  | cons m ms ih =>
    have hn' : ((p.mark m).ids s).Nodup := by rwa [ids_mark]
    rw [show p.markAll (m :: ms) = (p.mark m).markAll ms from rfl, ih hn', flagged_mark hn,
      hasField_mark hn, List.mem_cons, or_and_right, or_assoc, eq_comm]

/-! ## What other steps do to the flags -/

theorem flags_modifyTop_settle (s : Scope) (p : Pass) (k : Nat) (v : View) :
    (p.modifyTop (·.settle s.schema k v)).flags s = p.flags s := by
  cases hf : p.frames with
  | nil => simp [flags, modifyTop, hf, outcome]
  | cons frame rest => simp [flags, modifyTop, hf, outcome, Flags.ofFrame_settle]

theorem contents_finish (s : Scope) (p : Pass) (m : Model) :
    (p.finish m).contents s = p.contents s ++ [Contents.ofModel m] := by
  simp [contents, outcome, finish]

theorem flags_finish (s : Scope) (p : Pass) (m : Model) :
    (p.finish m).flags s = p.flags s ++ [Flags.ofModel m] := by
  rw [flags_eq, flags_eq, contents_finish, List.map_append]
  rfl

theorem contents_enter (s : Scope) (p : Pass) (id : ModelId) :
    (p.enter s id).contents s =
      (id, (s.schema.exported id).map Field.ofDeclaration) :: p.contents s := by
  simp [contents, outcome, enter, Contents.ofFrame, Frame.ofDeclarations, Function.comp_def,
    Slot.ofDeclaration]

theorem flags_enter (s : Scope) (p : Pass) (id : ModelId) :
    (p.enter s id).flags s = (id, (s.schema.exported id).map fun _ => false) :: p.flags s := by
  rw [flags_eq, flags_eq, contents_enter, List.map_cons, Contents.flags, List.map_map]
  rfl

theorem flagged_enter (s : Scope) (p : Pass) (id' id : ModelId) (i : Nat) :
    (p.enter s id').Flagged s id i ↔ p.Flagged s id i := by
  simp only [Flagged, flags_enter, List.mem_cons]
  constructor
  · rintro ⟨bs, heq | hbs, hflag⟩
    · obtain ⟨rfl, rfl⟩ := Prod.mk.inj heq
      obtain ⟨d, -, hd⟩ := List.mem_map.mp (List.mem_of_getElem? hflag)
      contradiction
    · exact ⟨bs, hbs, hflag⟩
  · rintro ⟨bs, hbs, hflag⟩
    exact ⟨bs, Or.inr hbs, hflag⟩

theorem flagged_blank (s : Scope) (p : Pass) (id' id : ModelId) (i : Nat) :
    (p.finish (.blank id')).Flagged s id i ↔ p.Flagged s id i := by
  simp only [Flagged, flags_finish, List.mem_append, List.mem_singleton]
  constructor
  · rintro ⟨bs, hbs | heq, hflag⟩
    · exact ⟨bs, hbs, hflag⟩
    · obtain ⟨rfl, rfl⟩ := Prod.mk.inj heq
      contradiction
  · rintro ⟨bs, hbs, hflag⟩
    exact ⟨bs, Or.inl hbs, hflag⟩

theorem flagged_leave {s : Scope} {p : Pass} {frame : Frame} {rest : List Frame}
    (hf : p.frames = frame :: rest) (tableName : String) {id : ModelId}
    (hsame : frame.id = id → Flags.ofModel (frame.toModel tableName) = Flags.ofFrame frame)
    (i : Nat) : (p.leave tableName).Flagged s id i ↔ p.Flagged s id i := by
  have hbefore : p.flags s = Flags.ofFrame frame :: flags s { p with frames := rest } := by
    simp [flags, hf, outcome]
  have hafter : (p.leave tableName).flags s =
      flags s { p with frames := rest } ++ [Flags.ofModel (frame.toModel tableName)] := by
    rw [leave, hf]
    exact flags_finish s { p with frames := rest } (frame.toModel tableName)
  have hmem : ∀ bs, (id, bs) = Flags.ofModel (frame.toModel tableName) ↔
      (id, bs) = Flags.ofFrame frame := by
    intro bs
    by_cases hid : frame.id = id
    · rw [hsame hid]
    · have hmodel : (id, bs) ≠ Flags.ofModel (frame.toModel tableName) :=
        fun h => hid (congrArg Prod.fst h).symm
      have hframe : (id, bs) ≠ Flags.ofFrame frame := fun h => hid (congrArg Prod.fst h).symm
      exact iff_of_false hmodel hframe
  simp only [Flagged, hbefore, hafter, List.mem_append, List.mem_cons, List.not_mem_nil, or_false,
    hmem]
  simp only [or_comm]

/-- The fields outlast the pass, with their flags. -/
theorem contents_publish {s : Scope} {p : Pass} (h : Occurs s ⟨p, []⟩) :
    contents (s.publish p) {} = p.contents s := by
  have hstored : (s.publish p).stored = p.outcome s := h.publish_stored
  rw [contents, contents, h.frames_eq_nil, outcome, hstored]
  simp

theorem flags_publish {s : Scope} {p : Pass} (h : Occurs s ⟨p, []⟩) :
    flags (s.publish p) {} = p.flags s := by
  rw [flags_eq, flags_eq, contents_publish h]

end Pass

/-! ## Flags of flat models -/

section

variable {s : Schema} {known : Model → Prop}

theorem Progress.ofModel_toModel {f : Frame} {k : Nat} (h : Progress s known f k)
    (hflat : s.IsFlat f.id) (tableName : String) :
    Flags.ofModel (f.toModel tableName) = Flags.ofFrame f := by
  have hfields : (f.toModel tableName).fields = f.slots.map (·.field) :=
    h.flatMap_fields hflat (List.Subset.refl _)
  rw [Flags.ofModel, Flags.ofFrame, hfields, List.map_map]
  rfl

theorem Traced.made_of_mem_outcome {s : Scope} {p : Pass} {ks : List Nat} (h : Traced s ⟨p, ks⟩)
    {m : Model} (hm : m ∈ p.outcome s) : Made s.schema (p.Has s) m := by
  have hhas : p.Has s m.unmarked := (p.mem_unmarked_outcome_iff s _).mp (List.mem_map_of_mem hm)
  exact (h.done _ hhas).of_unmarked

theorem Traced.length_flags {s : Scope} {p : Pass} {ks : List Nat} (h : Traced s ⟨p, ks⟩)
    {t : ModelId} (hr : s.schema.isRecord t = true) (hflat : s.schema.IsFlat t) {bs : List Bool}
    (hbs : (t, bs) ∈ p.flags s) : bs.length = (s.schema.exported t).length := by
  rcases List.mem_append.mp hbs with hbs | hbs
  · obtain ⟨f, hf, heq⟩ := List.mem_map.mp hbs
    obtain ⟨rfl, rfl⟩ := Prod.mk.inj heq
    obtain ⟨k, -, hprogress⟩ := h.progress hf
    rw [List.length_map, hprogress.length_slots]
  · obtain ⟨m, hm, heq⟩ := List.mem_map.mp hbs
    obtain ⟨rfl, rfl⟩ := Prod.mk.inj heq
    rw [List.length_map]
    cases h.made_of_mem_outcome hm with
    | @record f tableName hprogress hmade =>
      have hid : m.id = f.id := congrArg Model.id hmade
      have hfields : m.fields.map Field.unmarked = f.fields.map Field.unmarked :=
        congrArg Model.fields hmade
      have hlength := congrArg List.length hfields
      rw [hid] at hflat ⊢
      rwa [List.length_map, List.length_map, Frame.fields,
        hprogress.flatMap_fields hflat (List.Subset.refl _), List.length_map,
        hprogress.length_slots] at hlength
    | @blank id hblank hmade =>
      have hid : m.id = id := congrArg Model.id hmade
      rw [hid, hblank] at hr
      contradiction

end

end Resolution

/-- Between two requests, the fields are those of the stored models. -/
theorem Registry.contents_scope (s : Schema) (r : Registry) :
    Pass.contents (r.scope s) {} = r.models.map Contents.ofModel := by
  simp [Pass.contents, Pass.outcome, scope]

end RecordMapping
