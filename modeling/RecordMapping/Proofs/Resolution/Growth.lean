import RecordMapping.Proofs.Resolution.Related
import RecordMapping.Proofs.Resolution.Runs
import RecordMapping.Proofs.Resolution.Trace

/-!
What a resolution leaves of the pass that it began in.

A model is resolved while others are open, whose own resolution goes on afterwards at the places that
they had before.  `GrowsInto` says that these places are still good: no frame was taken away or put
below, no finished model was moved, and whatever was there has at most been marked.  The relation is
transitive and every operation is an instance of it, if the topmost frame is left out while its slots
are settled.
-/

namespace RecordMapping

theorem Model.MarkedInto.length_fields {m n : Model} (h : m.MarkedInto n) :
    n.fields.length = m.fields.length := h.fields.length_eq.symm

/-- The mark is on a field of one of the models. -/
def Mark.NamesFieldOf (models : List Model) (m : Mark) : Prop :=
  ∃ x ∈ models, x.id = m.model ∧ m.field < x.fields.length

namespace Resolution

theorem find?_map_of_id {α : Type} {key : α → ModelId} {g : α → α} (hg : ∀ x, key (g x) = key x)
    (xs : List α) (id : ModelId) :
    (xs.map g).find? (key · == id) = (xs.find? (key · == id)).map g := by
  have hcomp : ((key · == id) ∘ g) = (key · == id) := funext fun x => by simp [hg]
  rw [List.find?_map, hcomp]

/-! ## Marks on what is open -/

/-- The slot with its field perhaps marked.  What stands for an embedded field is not touched. -/
structure Slot.MarkedInto (x y : Slot) : Prop where
  field : x.field.MarkedInto y.field
  rest : y = { x with field := y.field }

theorem Slot.MarkedInto.refl (x : Slot) : x.MarkedInto x := ⟨.refl x.field, rfl⟩

theorem Slot.MarkedInto.trans {x y z : Slot} (h : x.MarkedInto y) (h' : y.MarkedInto z) :
    x.MarkedInto z := ⟨h.field.trans h'.field, by rw [h'.rest, h.rest]⟩

/-- The frame with some of its fields perhaps marked, and all else as it was. -/
structure Frame.MarkedInto (f g : Frame) : Prop where
  slots : List.Forall₂ Slot.MarkedInto f.slots g.slots
  rest : g = { f with slots := g.slots }

namespace Frame.MarkedInto

theorem refl (f : Frame) : f.MarkedInto f := ⟨List.forall₂_same.mpr fun x _ => .refl x, rfl⟩

theorem trans {f g h : Frame} (hfg : f.MarkedInto g) (hgh : g.MarkedInto h) : f.MarkedInto h :=
  ⟨forall₂_comp (fun h h' => h.trans h') hfg.slots hgh.slots, by rw [hgh.rest, hfg.rest]⟩

theorem mark (f : Frame) (i : Nat) : f.MarkedInto (f.mark i) :=
  ⟨forall₂_modify Slot.MarkedInto.refl (fun _ => ⟨Or.inr rfl, rfl⟩) f.slots i, rfl⟩

theorem id_eq {f g : Frame} (h : f.MarkedInto g) : g.id = f.id := by rw [h.rest]

end Frame.MarkedInto

/-! ## Growing -/

/-- The same models are open.  Models were finished, and marks were made, behind those that were
there.  What was there is as it was apart from marks. -/
structure Pass.GrowsInto (p p' : Pass) : Prop where
  frames : List.Forall₂ Frame.MarkedInto p.frames p'.frames
  finished : ∀ (i : Nat) (m : Model), p.finished[i]? = some m →
    ∃ n, p'.finished[i]? = some n ∧ m.MarkedInto n
  marks : p.marks <+: p'.marks

/-- The pass without its topmost frame. -/
def Pass.below (p : Pass) : Pass := { p with frames := p.frames.tail }

namespace Pass

theorem GrowsInto.refl (p : Pass) : p.GrowsInto p :=
  ⟨List.forall₂_same.mpr fun f _ => .refl f, fun _ m hm => ⟨m, hm, .refl m⟩, List.prefix_rfl⟩

theorem GrowsInto.trans {p p' p'' : Pass} (h : p.GrowsInto p') (h' : p'.GrowsInto p'') :
    p.GrowsInto p'' := by
  refine ⟨forall₂_comp (fun hfg hgh => hfg.trans hgh) h.frames h'.frames, ?_, h.marks.trans h'.marks⟩
  intro i m hm
  obtain ⟨n, hn, hmn⟩ := h.finished i m hm
  obtain ⟨o, ho, hno⟩ := h'.finished i n hn
  exact ⟨o, ho, hmn.trans hno⟩

theorem GrowsInto.below {p p' : Pass} (h : p.GrowsInto p') : p.below.GrowsInto p'.below :=
  ⟨by simpa only [Pass.below, List.drop_one] using List.forall₂_drop 1 h.frames, h.finished,
    h.marks⟩

theorem GrowsInto.finish (p : Pass) (m : Model) : p.GrowsInto (p.finish m) := by
  refine ⟨(GrowsInto.refl p).frames, ?_, List.prefix_rfl⟩
  intro i n hn
  have hlt : i < p.finished.length := (List.getElem?_eq_some_iff.mp hn).1
  exact ⟨n, (List.getElem?_append_left hlt).trans hn, .refl n⟩

theorem mark_of_opened {p : Pass} {m : Mark} (h : m.model ∈ p.frames.map (·.id)) :
    p.mark m =
      { p with frames := p.frames.map fun f => if f.id = m.model then f.mark m.field else f } := by
  rw [mark, if_pos (by simpa using h)]

theorem mark_of_not_opened {p : Pass} {m : Mark} (h : m.model ∉ p.frames.map (·.id)) :
    p.mark m =
      { p with
        finished := p.finished.map fun x => if x.id = m.model then x.mark m.field else x
        marks := p.marks ++ [m] } := by
  rw [mark, if_neg (by simpa using h)]

theorem GrowsInto.mark (p : Pass) (m : Mark) : p.GrowsInto (p.mark m) := by
  by_cases hopen : m.model ∈ p.frames.map (·.id)
  · rw [mark_of_opened hopen]
    refine ⟨?_, (GrowsInto.refl p).finished, List.prefix_rfl⟩
    rw [List.forall₂_map_right_iff, List.forall₂_same]
    intro f _
    split
    · exact .mark f m.field
    · exact .refl f
  · rw [mark_of_not_opened hopen]
    exact ⟨(GrowsInto.refl p).frames, fun i x hx => Registry.markedInto_of_markStored m hx,
      List.prefix_append _ _⟩

theorem GrowsInto.markAll (p : Pass) (ms : List Mark) : p.GrowsInto (p.markAll ms) := by
  induction ms generalizing p with
  | nil => exact .refl p
  | cons m ms ih => exact (GrowsInto.mark p m).trans (ih (p.mark m))

theorem below_modifyTop (p : Pass) (g : Frame → Frame) : (p.modifyTop g).below = p.below := by
  cases hf : p.frames <;> simp [below, modifyTop, hf]

/-! ## Marks on fields that are there -/

/-- The mark is on a field that can be read. -/
def Fits (s : Scope) (p : Pass) (m : Mark) : Prop :=
  ∃ v, p.view? s m.model = some v ∧ m.field < v.fields.length

theorem fits_of_lt {s : Scope} {p : Pass} {m : Mark}
    (h : m.field < (p.side s m.model).view.fields.length) : p.Fits s m := by
  cases hv : p.view? s m.model with
  | none =>
    rw [side, hv] at h
    exact absurd h (Nat.not_lt_zero _)
  | some v =>
    rw [side, hv] at h
    exact ⟨v, hv, h⟩

variable {s : Scope} {p p' : Pass}

/-- A mark changes nothing in how many fields can be read. -/
theorem view?_mark (s : Scope) (p : Pass) (m : Mark) (id : ModelId) :
    ((p.mark m).view? s id).map (·.fields.length) = (p.view? s id).map (·.fields.length) := by
  by_cases hopen : m.model ∈ p.frames.map (·.id)
  · rw [mark_of_opened hopen]
    have hid : ∀ f : Frame, (if f.id = m.model then f.mark m.field else f).id = f.id := by
      intro f
      split <;> rfl
    simp only [view?, find?_map_of_id hid, Option.map_or, Option.map_map]
    congr 2
    funext f
    simp only [Function.comp_apply]
    split <;> simp [Frame.view, Frame.mark, Frame.modifyField]
  · rw [mark_of_not_opened hopen]
    have hid : ∀ x : Model, (if x.id = m.model then x.mark m.field else x).id = x.id := by
      intro x
      split <;> rfl
    simp only [view?, find?_map_of_id hid, Option.map_or, Option.map_map]
    congr 3
    funext x
    simp only [Function.comp_apply]
    split <;> simp [viewModel]

theorem Fits.mark {m : Mark} (h : p.Fits s m) (m' : Mark) : (p.mark m').Fits s m := by
  obtain ⟨v, hv, hlt⟩ := h
  have hsize := view?_mark s p m' m.model
  rw [hv, Option.map_some, Option.map_eq_some_iff] at hsize
  obtain ⟨v', hv', hlen⟩ := hsize
  exact ⟨v', hv', hlen ▸ hlt⟩

theorem fits_of_mem_find {owner : ModelId} {field : Field} {anonymous : Bool} {m : Mark}
    (h : m ∈ (find (p.side s owner) (p.side s) field anonymous).marks) : p.Fits s m := by
  have hfits : ∀ t, (p.side s t).Has m → p.Fits s m := by
    intro t hm
    have hid : m.model = t := hm.model
    exact fits_of_lt (by rw [hid]; exact hm.field)
  rcases has_of_mem_find h with howner | ⟨t, -, htarget⟩
  · exact hfits owner howner
  · exact hfits t htarget

/-- Settling a slot marks fields that can be read, and then changes the topmost frame alone. -/
theorem settle_cases (s : Scope) (p : Pass) (k : Nat) :
    p.settle s k = p ∨ ∃ ms fields o, (∀ m ∈ ms, p.Fits s m) ∧
      p.settle s k = (p.markAll ms).modifyTop (·.conclude k fields o) := by
  cases hf : p.frames with
  | nil => exact Or.inl (by simp only [settle, hf])
  | cons frame rest =>
    simp only [settle, hf]
    split
    · exact Or.inl rfl
    · split
      · exact Or.inl rfl
      · exact Or.inr ⟨_, _, _, fun m hm => fits_of_mem_find hm, conclude_eq ..⟩

theorem GrowsInto.settle (s : Scope) (p : Pass) (k : Nat) :
    p.below.GrowsInto (p.settle s k).below := by
  rcases settle_cases s p k with heq | ⟨ms, fields, o, -, heq⟩
  · rw [heq]
    exact .refl _
  · rw [heq, below_modifyTop]
    exact (GrowsInto.markAll p ms).below

end Pass

/-! ## Growing by a run -/

/-- What holds of the pass before and of the one after a run.  While slots are settled, the topmost
frame is the run's own. -/
def Task.Grows : Task → Pass → Pass → Prop
  | .model _ _, p, p' => p.GrowsInto p'
  | .slots _, p, p' => p.below.GrowsInto p'.below

theorem Runs.grows {s : Scope} {task : Task} {p p' : Pass} {calls : List Call}
    (h : Runs s task p calls p') : task.Grows p p' := by
  induction h with
  | blank hr => exact .finish _ _
  | @record id instance? p p' calls hr hslots ih =>
    have hentered : p.GrowsInto p'.below := ih
    obtain ⟨frame, rest, hf, -⟩ := List.map_eq_cons_iff.mp (hslots.accounted trivial).frames
    rw [Task.Grows, Pass.leave_of_frames hf]
    simp only [Pass.below, hf, List.tail_cons] at hentered
    exact hentered.trans (.finish _ _)
  | done => exact .refl _
  | read ht _ ih => exact (Pass.GrowsInto.settle s _ _).trans ih
  | reach ht hnew _ _ ih ih' => exact (ih.below.trans (.settle s _ _)).trans ih'

/-- The model that was asked for is finished last. -/
theorem Runs.last {s : Scope} {id : ModelId} {instance? : Option String} {p p' : Pass}
    {calls : List Call} (h : Runs s (.model id instance?) p calls p') :
    ∃ before m, p'.finished = before ++ [m] ∧ m.id = id ∧
      m.isRecord = s.schema.isRecord id := by
  cases h with
  | blank hr => exact ⟨p.finished, .blank id, rfl, rfl, hr.symm⟩
  | @record _ _ _ p' _ hr hslots =>
    obtain ⟨frame, rest, hf, hid, -⟩ := List.map_eq_cons_iff.mp (hslots.accounted trivial).frames
    rw [Pass.leave_of_frames hf]
    exact ⟨p'.finished, _, rfl, hid, hr.symm⟩

/-! ## Marks that were made -/

namespace Pass

variable {s : Scope} {p p' : Pass}

/-- Every mark that was made outside the frames is on a field of a finished or stored model. -/
def NamesMarks (s : Scope) (p : Pass) : Prop := ∀ m ∈ p.marks, m.NamesFieldOf (p.models s)

theorem GrowsInto.namesFieldOf (h : p.GrowsInto p') {m : Mark}
    (hm : m.NamesFieldOf (p.models s)) : m.NamesFieldOf (p'.models s) := by
  obtain ⟨x, hx, hid, hlt⟩ := hm
  rcases List.mem_append.mp hx with hx | hx
  · obtain ⟨i, hi⟩ := List.mem_iff_getElem?.mp hx
    obtain ⟨y, hy, hxy⟩ := h.finished i x hi
    refine ⟨y, List.mem_append_left _ (List.mem_of_getElem? hy), hxy.id_eq.trans hid, ?_⟩
    rwa [hxy.length_fields]
  · exact ⟨x, List.mem_append_right _ hx, hid, hlt⟩

theorem NamesMarks.of_marks_eq (h : p.NamesMarks s) (hgrows : p.GrowsInto p')
    (hmarks : p'.marks = p.marks) : p'.NamesMarks s :=
  fun m hm => hgrows.namesFieldOf (h m (hmarks ▸ hm))

theorem NamesMarks.mark (h : p.NamesMarks s) {m : Mark} (hm : p.Fits s m) :
    (p.mark m).NamesMarks s := by
  have hgrows := GrowsInto.mark p m
  by_cases hopen : m.model ∈ p.frames.map (·.id)
  · exact h.of_marks_eq hgrows (by rw [mark_of_opened hopen])
  · have hnamed : m.NamesFieldOf (p.models s) := by
      obtain ⟨v, hv, hlt⟩ := hm
      rcases p.view?_cases s hv with ⟨f, hf, hid, -⟩ | ⟨-, x, hx, hid, rfl⟩
      · exact absurd (hid ▸ List.mem_map_of_mem hf) hopen
      · exact ⟨x, hx, hid, hlt⟩
    intro m' hm'
    have hmarks : (p.mark m).marks = p.marks ++ [m] := by rw [mark_of_not_opened hopen]
    rw [hmarks] at hm'
    rcases List.mem_append.mp hm' with hm' | hm'
    · exact hgrows.namesFieldOf (h m' hm')
    · rw [List.mem_singleton.mp hm']
      exact hgrows.namesFieldOf hnamed

theorem NamesMarks.markAll {ms : List Mark} (h : p.NamesMarks s) (hms : ∀ m ∈ ms, p.Fits s m) :
    (p.markAll ms).NamesMarks s := by
  induction ms generalizing p with
  | nil => exact h
  | cons m ms ih =>
    refine ih (h.mark (hms m List.mem_cons_self)) ?_
    intro m' hm'
    exact (hms m' (List.mem_cons_of_mem _ hm')).mark m

theorem NamesMarks.settle (h : p.NamesMarks s) (k : Nat) : (p.settle s k).NamesMarks s := by
  rcases settle_cases s p k with heq | ⟨ms, fields, o, hms, heq⟩
  · rwa [heq]
  · rw [heq]
    exact h.markAll hms

theorem NamesMarks.finish (h : p.NamesMarks s) (m : Model) : (p.finish m).NamesMarks s :=
  h.of_marks_eq (.finish p m) rfl

theorem NamesMarks.leave (h : p.NamesMarks s) (tableName : String) :
    (p.leave tableName).NamesMarks s := by
  unfold Pass.leave
  split
  · exact h
  · exact NamesMarks.finish h _

end Pass

theorem Runs.namesMarks {s : Scope} {task : Task} {p p' : Pass} {calls : List Call}
    (h : Runs s task p calls p') (hp : p.NamesMarks s) : p'.NamesMarks s := by
  induction h with
  | blank hr => exact hp.finish _
  | record hr _ ih => exact (ih hp).leave _
  | done => exact hp
  | read ht _ ih => exact ih (hp.settle _)
  | reach ht hnew _ _ ih ih' => exact ih' ((ih hp).settle _)

theorem Occurs.namesMarks {s : Scope} {a : Stage} (h : Occurs s a) : a.pass.NamesMarks s := by
  induction h with
  | start schema singularTables => exact fun m hm => absurd hm List.not_mem_nil
  | step _ hstep ih =>
    cases hstep with
    | enter hdue hnew hr => exact ih
    | blank hdue hnew hr => exact ih.finish _
    | settle hf hd ht hfloor => exact ih.settle _
    | leave hf hfloor => exact ih.leave _
  | publish _ _ => exact fun m hm => absurd hm List.not_mem_nil

end Resolution
end RecordMapping
