import RecordMapping.Proofs.Resolution.Shares
import RecordMapping.Proofs.Session

/-!
Frames and models of a session.

Every frame that occurs in a session is in progress, and every finished or stored model was made from a
frame all of whose slots are settled.  Settling is the one step to look at.  It reads two models, marks
fields of both, and concludes the slot after that.  Since marks go unseen, it amounts to marking first
and settling the topmost frame alone.
-/

namespace RecordMapping
namespace Resolution

/-! ## Marks on a pass -/

namespace Pass

/-- The models that are done, which are looked through in this order. -/
def models (s : Scope) (p : Pass) : List Model := p.finished ++ s.stored

/-- A model is done, apart from marks. -/
def Has (s : Scope) (p : Pass) (m : Model) : Prop := m ∈ (p.models s).map Model.unmarked

theorem frames_mark (p : Pass) (m : Mark) :
    (p.mark m).frames = p.frames.map fun f => if f.id = m.model then f.mark m.field else f := by
  unfold mark
  split
  · rfl
  · next hnone =>
    rw [Bool.not_eq_true, List.any_eq_false] at hnone
    have hself : (p.frames.map fun f => if f.id = m.model then f.mark m.field else f) =
        p.frames.map id := by
      apply List.map_congr_left
      intro f hf
      exact if_neg (by simpa using hnone f hf)
    rw [hself, List.map_id]

theorem frames_modifyTop (p : Pass) (g : Frame → Frame) :
    (p.modifyTop g).frames = p.frames.modifyHead g := rfl

theorem unmarked_finished_mark (p : Pass) (m : Mark) :
    (p.mark m).finished.map Model.unmarked = p.finished.map Model.unmarked := by
  unfold mark
  split
  · rfl
  · rw [List.map_map]
    apply List.map_congr_left
    intro x _
    show (if x.id = m.model then x.mark m.field else x).unmarked = x.unmarked
    split
    · exact (Model.MarkedInto.mark x m.field).unmarked_eq
    · rfl

theorem unmarked_models_markAll (s : Scope) (p : Pass) (ms : List Mark) :
    ((p.markAll ms).models s).map Model.unmarked = (p.models s).map Model.unmarked := by
  have hfinished : (p.markAll ms).finished.map Model.unmarked = p.finished.map Model.unmarked := by
    induction ms generalizing p with
    | nil => rfl
    | cons m ms ih =>
      rw [show p.markAll (m :: ms) = (p.mark m).markAll ms from rfl, ih, unmarked_finished_mark]
  rw [models, models, List.map_append, List.map_append, hfinished]

theorem has_markAll (s : Scope) (p : Pass) (ms : List Mark) : (p.markAll ms).Has s = p.Has s := by
  funext m
  rw [Has, Has, unmarked_models_markAll]

theorem has_settle (s : Scope) (p : Pass) (k : Nat) : (p.settle s k).Has s = p.Has s := by
  unfold settle
  split
  · rfl
  · split
    · rfl
    · split
      · rfl
      · rw [conclude_eq]
        exact has_markAll s p _

theorem has_finish (s : Scope) (p : Pass) (m n : Model) :
    (p.finish m).Has s n ↔ n = m.unmarked ∨ p.Has s n := by
  simp only [Has, models, finish, List.append_assoc, List.map_append, List.map_cons, List.map_nil,
    List.mem_append, List.mem_singleton]
  exact or_left_comm

theorem knows_markAll (s : Scope) (p : Pass) (ms : List Mark) (id : ModelId) :
    (p.markAll ms).knows s id = p.knows s id := by
  rw [Bool.eq_iff_iff, knows_iff, knows_iff, ids_markAll]

theorem frames_markAll_of_cons {p : Pass} {frame : Frame} {rest : List Frame}
    (hf : p.frames = frame :: rest) (ms : List Mark) :
    ∃ frame' rest', (p.markAll ms).frames = frame' :: rest' ∧ frame'.id = frame.id := by
  have hids := (p.frames_ids_markAll ms).trans (congrArg (List.map (·.id)) hf)
  obtain ⟨frame', rest', hf', hid', -⟩ := List.map_eq_cons_iff.mp hids
  exact ⟨frame', rest', hf', hid'⟩

theorem modifyTop_eq_self {p : Pass} {frame : Frame} {rest : List Frame} {g : Frame → Frame}
    (hf : p.frames = frame :: rest) (hg : g frame = frame) : p.modifyTop g = p := by
  rw [modifyTop, hf, List.modifyHead_cons, hg, ← hf]

theorem modifyTop_congr {p : Pass} {frame : Frame} {rest : List Frame} {g g' : Frame → Frame}
    (hf : p.frames = frame :: rest) (hg : g frame = g' frame) :
    p.modifyTop g = p.modifyTop g' := by
  rw [modifyTop, modifyTop, hf, List.modifyHead_cons, List.modifyHead_cons, hg]

/-! ## Reading -/

theorem view?_of_not_opened (s : Scope) {p : Pass} {id : ModelId}
    (h : id ∉ p.frames.map (·.id)) :
    p.view? s id = ((p.models s).find? (·.id == id)).map viewModel := by
  have hnone : p.frames.find? (·.id == id) = none := by
    rw [List.find?_eq_none]
    intro f hf hid
    exact h (List.mem_map.mpr ⟨f, hf, beq_iff_eq.mp hid⟩)
  rw [view?, hnone, models, List.find?_append]
  rfl

theorem view?_cases (s : Scope) {p : Pass} {id : ModelId} {v : View} (h : p.view? s id = some v) :
    (∃ f ∈ p.frames, f.id = id ∧ v = f.view) ∨
      id ∉ p.frames.map (·.id) ∧ ∃ m ∈ p.models s, m.id = id ∧ v = viewModel m := by
  by_cases hopen : id ∈ p.frames.map (·.id)
  · left
    cases hfind : p.frames.find? (·.id == id) with
    | none =>
      obtain ⟨f, hf, hid⟩ := List.mem_map.mp hopen
      exact absurd (beq_iff_eq.mpr hid) (List.find?_eq_none.mp hfind f hf)
    | some f =>
      rw [view?, hfind] at h
      exact ⟨f, List.mem_of_find?_eq_some hfind, by simpa using List.find?_some hfind,
        (Option.some.inj h).symm⟩
  · right
    refine ⟨hopen, ?_⟩
    rw [view?_of_not_opened s hopen, Option.map_eq_some_iff] at h
    obtain ⟨m, hfind, rfl⟩ := h
    exact ⟨m, List.mem_of_find?_eq_some hfind, by simpa using List.find?_some hfind, rfl⟩

end Pass

/-! ## What a stage looks like -/

/-- A model made from a frame all of whose slots are settled, or one of a type that is no record, apart
from marks. -/
inductive Made (s : Schema) (known : Model → Prop) (m : Model) : Prop
  | record {f : Frame} {tableName : String} (hf : Progress s known f (s.exported f.id).length)
      (hm : m.unmarked = (f.toModel tableName).unmarked)
  | blank {id : ModelId} (hr : s.isRecord id = false) (hm : m.unmarked = .blank id)

/-- Open models are in progress as far as they are settled, and those that are done were made. -/
structure Traced (s : Scope) (a : Stage) : Prop where
  opened : List.Forall₂ (Progress s.schema (a.pass.Has s)) a.pass.frames a.settled
  done : ∀ m, a.pass.Has s m → Made s.schema (a.pass.Has s) m

section

variable {s : Schema} {known known' : Model → Prop}

theorem Progress.mono (hk : ∀ m, known m → known' m) {f : Frame} {k : Nat}
    (h : Progress s known f k) : Progress s known' f k := by
  induction h with
  | start hr => exact .start hr
  | mark i _ ih => exact .mark i ih
  | alone v _ hd ht ih => exact .alone v ih hd ht
  | opened _ hd _ ht ih ihg => exact .opened ih hd ihg ht
  | finished _ hd _ ht hne hm hgm ih ihg => exact .finished ih hd ihg ht hne (hk _ hm) hgm
  | blank _ hd ht hr ih => exact .blank ih hd ht hr

theorem Made.mono (hk : ∀ m, known m → known' m) {m : Model} (h : Made s known m) :
    Made s known' m := by
  cases h with
  | record hf hm => exact .record (hf.mono hk) hm
  | blank hr hm => exact .blank hr hm

theorem Made.isRecord {m : Model} (h : Made s known m) : m.isRecord = s.isRecord m.id := by
  cases h with
  | @record f tableName hf hm =>
    have hid : m.id = f.id := congrArg Model.id hm
    have hrecord : m.isRecord = true := congrArg Model.isRecord hm
    rw [hid, hrecord, hf.isRecord]
  | blank hr hm =>
    rw [Model.eq_blank_of_unmarked hm]
    exact hr.symm

theorem Made.of_unmarked {m : Model} (h : Made s known m.unmarked) : Made s known m := by
  cases h with
  | record hf hm => exact .record hf (by rwa [Model.unmarked_unmarked] at hm)
  | blank hr hm => exact .blank hr (by rwa [Model.unmarked_unmarked] at hm)

end

/-! ## Settling -/

section

variable {s : Scope} {p : Pass} {ks : List Nat}

theorem Traced.of_has {m : Model} (h : Traced s ⟨p, ks⟩) (hm : m ∈ p.models s) :
    Made s.schema (p.Has s) m :=
  (h.done m.unmarked (List.mem_map_of_mem hm)).of_unmarked

theorem forall₂_progress_markAll {s : Schema} {known : Model → Prop} (ms : List Mark) {p : Pass}
    (h : List.Forall₂ (Progress s known) p.frames ks) :
    List.Forall₂ (Progress s known) (p.markAll ms).frames ks := by
  induction ms generalizing p with
  | nil => exact h
  | cons m ms ih =>
    apply ih
    rw [Pass.frames_mark, List.forall₂_map_left_iff]
    refine h.imp fun f k hf => ?_
    split
    · exact .mark m.field hf
    · exact hf

theorem Traced.markAll (h : Traced s ⟨p, ks⟩) (ms : List Mark) : Traced s ⟨p.markAll ms, ks⟩ := by
  have hhas := p.has_markAll s ms
  refine ⟨?_, by rw [hhas]; exact h.done⟩
  rw [hhas]
  exact forall₂_progress_markAll ms h.opened

theorem Traced.progress (h : Traced s ⟨p, ks⟩) {f : Frame} (hf : f ∈ p.frames) :
    ∃ k ∈ ks, Progress s.schema (p.Has s) f k := exists_of_forall₂ h.opened hf

theorem Traced.top {frame : Frame} {rest : List Frame} {k : Nat} (h : Traced s ⟨p, k :: ks⟩)
    (hf : p.frames = frame :: rest) :
    Progress s.schema (p.Has s) frame k ∧
      List.Forall₂ (Progress s.schema (p.Has s)) rest ks := by
  have hopened := h.opened
  rw [hf] at hopened
  exact List.forall₂_cons.mp hopened

/-- What is known can be read. -/
theorem Traced.readable (h : Traced s ⟨p, ks⟩) {frame : Frame} (hf : frame ∈ p.frames)
    {t : ModelId} (ht : p.knows s t = true) :
    Readable s.schema (p.Has s) frame.id (some t) (p.side s t).view := by
  obtain ⟨v, hv⟩ := Option.isSome_iff_exists.mp ht
  have hside : (p.side s t).view = v := by rw [Pass.side, hv]; rfl
  rw [hside]
  rcases p.view?_cases s hv with ⟨g, hg, rfl, rfl⟩ | ⟨hclosed, m, hm, rfl, rfl⟩
  · obtain ⟨k, -, hprogress⟩ := h.progress hg
    exact .opened hprogress
  · cases h.of_has hm with
    | @record g tableName hg hgm =>
      have hid : m.id = g.id := congrArg Model.id hgm
      have hne : g.id ≠ frame.id := by
        intro heq
        rw [hid, heq] at hclosed
        exact hclosed (List.mem_map_of_mem hf)
      rw [hid]
      exact .finished hg hne (List.mem_map_of_mem hm) hgm
    | @blank id hr hm' =>
      rw [Model.eq_blank_of_unmarked hm']
      exact .blank hr

theorem Traced.declared (h : Traced s ⟨p, ks⟩) {t : ModelId} (ht : t ∈ p.frames.map (·.id)) :
    (p.side s t).view.Alike (s.schema.declaredView t) := by
  obtain ⟨f, hf, rfl⟩ := List.mem_map.mp ht
  have hknown : p.knows s f.id = true := by
    rw [Pass.knows_iff, Pass.ids]
    exact List.mem_append_left _ ht
  exact (h.readable hf hknown).alike (Or.inl rfl)

/-- Marks go unseen. -/
theorem Traced.side_alike (h : Traced s ⟨p, ks⟩) (ms : List Mark) {t : ModelId}
    (ht : p.knows s t = true) :
    (p.side s t).Alike ((p.markAll ms).side s t) := by
  refine ⟨rfl, rfl, ?_⟩
  have hids := p.frames_ids_markAll ms
  by_cases hopen : t ∈ p.frames.map (·.id)
  · have hopen₁ : t ∈ (p.markAll ms).frames.map (·.id) := by rwa [hids]
    exact (h.declared hopen).trans ((h.markAll ms).declared hopen₁).symm
  · have hopen₁ : t ∉ (p.markAll ms).frames.map (·.id) := by rwa [hids]
    have hfind : (((p.markAll ms).models s).find? (·.id == t)).map Model.unmarked =
        ((p.models s).find? (·.id == t)).map Model.unmarked := by
      have hmap : ∀ models : List Model, (models.find? (·.id == t)).map Model.unmarked =
          (models.map Model.unmarked).find? (·.id == t) := by
        intro models
        rw [List.find?_map]
        rfl
      rw [hmap, hmap, Pass.unmarked_models_markAll]
    rw [Pass.knows, Pass.view?_of_not_opened s hopen, Option.isSome_map,
      Option.isSome_iff_exists] at ht
    obtain ⟨m, hm⟩ := ht
    obtain ⟨m₁, hm₁, hmm₁⟩ : ∃ m₁, ((p.markAll ms).models s).find? (·.id == t) = some m₁ ∧
        m₁.unmarked = m.unmarked := by
      rw [hm, Option.map_some, Option.map_eq_some_iff] at hfind
      exact hfind
    rw [Pass.side, Pass.side, Pass.view?_of_not_opened s hopen, Pass.view?_of_not_opened s hopen₁,
      hm, hm₁]
    exact viewModel_alike hmm₁.symm

/-- The marks that settling a declared field sets. -/
def declaredMarks (s : Schema) (owner : ModelId) (d : FieldDeclaration) (v : View) : List Mark :=
  if d.annotation.isExcluded then [] else (declaredFinding s owner d v).marks

/-- What is found in a pass is found from the declaration and from what can be read after the marks. -/
theorem Traced.find_eq {frame : Frame} {slot : Slot} {d : FieldDeclaration} {v : View}
    (h : Traced s ⟨p, ks⟩) (hf : frame ∈ p.frames) (hslot : slot.Follows d) (ms : List Mark)
    (hv : ∀ t, slot.field.type.associated? = some t →
      p.knows s t = true ∧ ((p.markAll ms).side s t).view = v) :
    find (p.side s frame.id) (p.side s) slot.field slot.anonymous =
      declaredFinding s.schema frame.id d v := by
  have howner : (p.side s frame.id).Alike (s.schema.declaredSide frame.id) :=
    ⟨rfl, rfl, h.declared (List.mem_map_of_mem hf)⟩
  rw [declaredFinding, hslot.anonymous]
  apply find_congr howner
  · intro t hassociated
    obtain ⟨hknown, hview⟩ := hv t hassociated
    rw [← hview]
    exact h.side_alike ms hknown
  · exact hslot.name
  · exact hslot.type
  · exact hslot.settings

/-- Settling a slot sets marks, and then settles the topmost frame from what can be read after them. -/
theorem Traced.settle_eq {frame : Frame} {rest : List Frame} {k : Nat} {d : FieldDeclaration}
    (h : Traced s ⟨p, k :: ks⟩) (hf : p.frames = frame :: rest)
    (hd : (s.schema.exported frame.id)[k]? = some d)
    (ht : ∀ t, d.target? = some t → p.knows s t = true) :
    ∃ v, Readable s.schema (p.Has s) frame.id d.target? v ∧
      (∀ t, d.target? = some t →
        ((p.markAll (declaredMarks s.schema frame.id d v)).side s t).view = v) ∧
      p.settle s k = (p.markAll (declaredMarks s.schema frame.id d v)).modifyTop
        (·.settle s.schema k v) := by
  have htop := (h.top hf).1
  obtain ⟨slot, hslot, hfollows⟩ := htop.exists_slot hd
  cases hignored : slot.field.isIgnored with
  | true =>
    have hexcluded : d.annotation.isExcluded = true := hfollows.isIgnored.symm.trans hignored
    have hnone : d.target? = none := by rw [FieldDeclaration.target?, if_pos hexcluded]
    refine ⟨frame.view, ?_, ?_, ?_⟩
    · rw [hnone]
      exact .alone _
    · simp [hnone]
    · have hleave : frame.settle s.schema k frame.view = frame :=
        Frame.slots_settle_of_ignored s.schema frame.view hslot hignored
      rw [declaredMarks, if_pos hexcluded]
      show p.settle s k = p.modifyTop _
      rw [Pass.modifyTop_eq_self hf hleave]
      simp [Pass.settle, hf, hslot, hignored]
  | false =>
    have hincluded : d.annotation.isExcluded = false := hfollows.isIgnored.symm.trans hignored
    have htarget : d.target? = slot.field.type.associated? := by
      rw [FieldDeclaration.target?, if_neg (by simp [hincluded]), hfollows.type]
    obtain ⟨finding, hfinding⟩ : ∃ finding,
        find (p.side s frame.id) (p.side s) slot.field slot.anonymous = finding := ⟨_, rfl⟩
    have hsettle : p.settle s k = (p.markAll finding.marks).modifyTop
        (·.conclude k ((p.markAll finding.marks).side s
          (slot.field.type.associated?.getD frame.id)).view.fields finding.outcome) := by
      rw [← Pass.conclude_eq, ← hfinding]
      simp [Pass.settle, hf, hslot, hignored]
    obtain ⟨v, hv⟩ : ∃ v, ((p.markAll finding.marks).side s
      (slot.field.type.associated?.getD frame.id)).view = v := ⟨_, rfl⟩
    rw [hv] at hsettle
    have hfound : finding = declaredFinding s.schema frame.id d v := by
      rw [← hfinding]
      refine h.find_eq (by simp [hf]) hfollows finding.marks ?_
      intro t hassociated
      rw [hassociated, Option.getD_some] at hv
      exact ⟨ht t (htarget.trans hassociated), hv⟩
    have hmarks : declaredMarks s.schema frame.id d v = finding.marks := by
      rw [declaredMarks, if_neg (by simp [hincluded]), ← hfound]
    obtain ⟨frame₁, rest₁, hf₁, hid₁⟩ := Pass.frames_markAll_of_cons hf finding.marks
    have hmarked := h.markAll finding.marks
    refine ⟨v, ?_, ?_, ?_⟩
    · rw [htarget]
      cases hassociated : slot.field.type.associated? with
      | none => exact .alone v
      | some t =>
        have hknown := ht t (htarget.trans hassociated)
        rw [← p.knows_markAll s finding.marks] at hknown
        rw [hassociated, Option.getD_some] at hv
        rw [← hv, ← hid₁, ← p.has_markAll s finding.marks]
        exact hmarked.readable (by simp [hf₁]) hknown
    · intro t htarget'
      rw [hmarks, ← hv, ← htarget, htarget', Option.getD_some]
    · have htop₁ := (hmarked.top hf₁).1
      rw [← hid₁] at hd
      obtain ⟨slot₁, hslot₁, hfollows₁⟩ := htop₁.exists_slot hd
      rw [hmarks, hsettle]
      refine Pass.modifyTop_congr hf₁ ?_
      rw [Frame.settle_of_not_ignored s.schema v hslot₁ (hfollows₁.isIgnored.trans hincluded),
        htop₁.finding_eq hfollows₁, hid₁, hfound]

end

/-! ## Every stage is traced -/

theorem Step.has {s : Scope} {q : Demand} {floor : Nat} {a b : Stage} (h : Step s q floor a b)
    (m : Model) (hm : a.pass.Has s m) : b.pass.Has s m := by
  cases h with
  | enter hdue hnew hr => exact hm
  | blank hdue hnew hr => exact (Pass.has_finish s _ _ m).mpr (Or.inr hm)
  | settle hf hd ht hfloor => rwa [Pass.has_settle]
  | leave hf hfloor =>
    rw [Pass.leave_of_frames hf]
    exact (Pass.has_finish s _ _ m).mpr (Or.inr hm)

theorem Step.traced {s : Scope} {q : Demand} {floor : Nat} {a b : Stage} (h : Step s q floor a b)
    (ha : Traced s a) : Traced s b := by
  have hopened := ha.opened.imp fun _ _ hfk => Progress.mono h.has hfk
  have hdone := fun m hm => (ha.done m hm).mono h.has
  cases h with
  | enter hdue hnew hr => exact ⟨.cons (.start hr) hopened, hdone⟩
  | @blank p ks id hdue hnew hr =>
    refine ⟨hopened, ?_⟩
    intro m hm
    rcases (Pass.has_finish s _ _ m).mp hm with rfl | hm
    · exact .blank hr rfl
    · exact hdone m hm
  | @settle p frame rest k ks d hf hd ht hfloor =>
    obtain ⟨v, hv, -, heq⟩ := ha.settle_eq hf hd ht
    have hhas := p.has_settle s k
    refine ⟨?_, by rw [hhas]; exact ha.done⟩
    have hmarked := forall₂_progress_markAll (declaredMarks s.schema frame.id d v) ha.opened
    obtain ⟨frame₁, rest₁, hf₁, hid₁⟩ :=
      Pass.frames_markAll_of_cons hf (declaredMarks s.schema frame.id d v)
    rw [hhas, heq, Pass.frames_modifyTop]
    rw [hf₁] at hmarked ⊢
    cases hmarked with
    | cons htop hrest =>
      rw [← hid₁] at hd hv
      exact .cons (htop.settle hd hv) hrest
  | @leave p frame rest ks hf hfloor =>
    rw [Pass.leave_of_frames hf] at hopened hdone ⊢
    rw [hf] at hopened
    cases hopened with
    | cons htop hrest =>
      refine ⟨hrest, ?_⟩
      intro m hm
      rcases (Pass.has_finish s _ _ m).mp hm with rfl | hm
      · exact .record htop (Model.unmarked_unmarked _)
      · exact hdone m hm

theorem Occurs.publish_has {s : Scope} {p : Pass} (h : Occurs s ⟨p, []⟩) (m : Model) :
    Pass.Has (s.publish p) {} m ↔ p.Has s m := by
  show m ∈ (s.publish p).stored.map Model.unmarked ↔ m ∈ (p.finished ++ s.stored).map Model.unmarked
  rw [h.publish_stored, List.map_append, List.map_append, Registry.unmarked_foldl_markStored,
    List.mem_append, List.mem_append]
  exact Or.comm

/-- At every stage of a session, open models are in progress and the others were made. -/
theorem Occurs.traced {s : Scope} {a : Stage} (h : Occurs s a) : Traced s a := by
  induction h with
  | start schema singularTables => exact ⟨.nil, fun m hm => absurd hm List.not_mem_nil⟩
  | step _ hstep ih => exact hstep.traced ih
  | @publish s p hp ih =>
    refine ⟨.nil, ?_⟩
    intro m hm
    exact (ih.done m ((hp.publish_has m).mp hm)).mono fun n hn => (hp.publish_has n).mpr hn

end Resolution
end RecordMapping
