import RecordMapping.Proofs.Reachability
import RecordMapping.Proofs.Resolution.Flags

/-!
The order in which resolutions end.

A slot is settled from a model that is still open or from one whose resolution has ended.  Which of the
two it was can be told from the order of the models, since a model that is open when another one is left
ends after it.  `Chronicle` lists models in this order, each made from those that stand before it.

An open model refers to every model that is opened above it, directly or over others.  A model that does
not refer back has therefore ended when it is read.
-/

namespace RecordMapping

open Resolution

namespace Resolution

/-! ## Where a view comes from -/

/-- What can be read of a model that is open, or of one that ended `before`.  The latter are listed
without marks. -/
inductive Origin (s : Schema) (before : List Model) (opened : List ModelId) : ModelId → View → Prop
  | opened {g : Frame} {j : Nat} (hg : Progress s (· ∈ before) g j) (hmem : g.id ∈ opened) :
      Origin s before opened g.id g.view
  | ended {m : Model} (hm : m.unmarked ∈ before) (hr : m.isRecord = s.isRecord m.id) :
      Origin s before opened m.id (viewModel m)

/-- The first `k` slots show what was found from the models that they refer to. -/
def Sourced (s : Schema) (before : List Model) (opened : List ModelId) (f : Frame) (k : Nat) : Prop :=
  ∀ (i : Nat) (d : FieldDeclaration) (slot : Slot) (t : ModelId), i < k →
    (s.exported f.id)[i]? = some d → f.slots[i]? = some slot → d.target? = some t →
    ∃ v, Origin s before opened t v ∧ slot.Shows v.fields (declaredFinding s f.id d v).outcome

section

variable {s : Schema} {before before' : List Model} {opened : List ModelId} {f : Frame} {k : Nat}

theorem Origin.isRecord {t : ModelId} {v : View} (h : Origin s before opened t v) :
    v.isRecord = s.isRecord t := by
  cases h with
  | opened hg hmem => exact hg.isRecord.symm
  | ended hm hr => exact hr

theorem Origin.mono (hb : ∀ m ∈ before, m ∈ before') {t : ModelId} {v : View}
    (h : Origin s before opened t v) : Origin s before' opened t v := by
  cases h with
  | opened hg hmem => exact .opened (hg.mono hb) hmem
  | ended hm hr => exact .ended (hb _ hm) hr

theorem Sourced.mono (hb : ∀ m ∈ before, m ∈ before') (h : Sourced s before opened f k) :
    Sourced s before' opened f k := by
  intro i d slot t hi hd hslot ht
  obtain ⟨v, hv, hshows⟩ := h i d slot t hi hd hslot ht
  exact ⟨v, hv.mono hb, hshows⟩

theorem Sourced.start (s : Schema) (before : List Model) (opened : List ModelId) (f : Frame) :
    Sourced s before opened f 0 := fun i _ _ _ hi => absurd hi (Nat.not_lt_zero i)

theorem Sourced.mark (h : Sourced s before opened f k) (i : Nat) :
    Sourced s before opened (f.mark i) k := by
  intro j d slot t hj hd hslot ht
  obtain ⟨slot₀, hslot₀, rfl | rfl⟩ := Frame.slots_mark_inv hslot
  · exact h j d slot t hj hd hslot₀ ht
  · obtain ⟨v, hv, hshows⟩ := h j d slot₀ t hj hd hslot₀ ht
    exact ⟨v, hv, hshows.marked⟩

theorem Sourced.settle {known : Model → Prop} {d : FieldDeclaration} {v : View}
    (h : Sourced s before opened f k) (hf : Progress s known f k)
    (hd : (s.exported f.id)[k]? = some d)
    (hv : ∀ t, d.target? = some t → Origin s before opened t v) :
    Sourced s before opened (f.settle s k v) (k + 1) := by
  intro i d' slot t hi hd' hslot ht
  rw [Frame.settle_id] at hd' ⊢
  obtain ⟨slot₀, hslot₀, ⟨rfl, hother⟩ | ⟨rfl, -, rfl⟩⟩ := Frame.slots_settle_inv hslot
  · have hincluded := (FieldDeclaration.target?_eq_some_iff.mp ht).1
    rw [(hf.follows hd' hslot₀).isIgnored, hincluded] at hother
    have hne : k ≠ i := hother.resolve_right Bool.false_ne_true
    exact h i d' slot t (by omega) hd' hslot₀ ht
  · obtain rfl : d = d' := Option.some.inj (hd.symm.trans hd')
    have hfresh := hf.isFresh hslot₀ (Or.inl (Nat.le_refl k))
    refine ⟨v, hv t ht, ?_⟩
    rw [← hf.finding_eq (hf.follows hd hslot₀)]
    exact hfresh.shows _ _ _

end

/-! ## Open models -/

/-- Each open model is settled from what has ended or is open itself, the model included.  It is reached
from all that were opened before it. -/
inductive Stacked (s : Schema) (before : List Model) : List Frame → List Nat → Prop
  | nil : Stacked s before [] []
  | cons {f : Frame} {rest : List Frame} {k : Nat} {ks : List Nat}
      (hf : Sourced s before (f.id :: rest.map (·.id)) f k)
      (hreach : ∀ t ∈ rest.map (·.id), s.Reaches t f.id) (hrest : Stacked s before rest ks) :
      Stacked s before (f :: rest) (k :: ks)

section

variable {s : Schema} {before before' : List Model} {fs : List Frame} {ks : List Nat}

theorem Stacked.mono (hb : ∀ m ∈ before, m ∈ before') (h : Stacked s before fs ks) :
    Stacked s before' fs ks := by
  induction h with
  | nil => exact .nil
  | cons hf hreach _ ih => exact .cons (hf.mono hb) hreach ih

theorem Stacked.map {g : Frame → Frame} (hid : ∀ f, (g f).id = f.id)
    (hg : ∀ opened f k, Sourced s before opened f k → Sourced s before opened (g f) k)
    (h : Stacked s before fs ks) : Stacked s before (fs.map g) ks := by
  induction h with
  | nil => exact .nil
  | @cons f rest k ks hf hreach _ ih =>
    have hids : (rest.map g).map (·.id) = rest.map (·.id) := by
      rw [List.map_map]
      exact List.map_congr_left fun f _ => hid f
    refine .cons ?_ ?_ ih
    · rw [hid, hids]
      exact hg _ _ _ hf
    · rw [hid, hids]
      exact hreach

theorem Stacked.markAll (ms : List Mark) {p : Pass} (h : Stacked s before p.frames ks) :
    Stacked s before (p.markAll ms).frames ks := by
  induction ms generalizing p with
  | nil => exact h
  | cons m ms ih =>
    apply ih
    rw [Pass.frames_mark]
    refine h.map ?_ ?_
    · intro f
      split <;> rfl
    · intro opened f k hf
      split
      · exact hf.mark m.field
      · exact hf

end

/-! ## Models that have ended -/

/-- The model was made while those `before` it had ended.  Whatever else it was settled from is not among
them, and reaches it. -/
inductive Entry (s : Schema) (before : List Model) (m : Model) : Prop
  | record {f : Frame} {tableName : String} {opened : List ModelId}
      (hf : Progress s (· ∈ before) f (s.exported f.id).length)
      (hs : Sourced s before opened f (s.exported f.id).length)
      (hopened : ∀ t ∈ opened, s.Reaches t f.id ∧ t ∉ before.map (·.id))
      (hm : m = (f.toModel tableName).unmarked) : Entry s before m
  | blank {id : ModelId} (hr : s.isRecord id = false) (hm : m = .blank id) : Entry s before m

/-- Models in the order in which their resolution ended, without marks. -/
inductive Chronicle (s : Schema) : List Model → Prop
  | nil : Chronicle s []
  | snoc {ms : List Model} {m : Model} (h : Chronicle s ms) (hm : Entry s ms m) :
      Chronicle s (ms ++ [m])

theorem Chronicle.entry {s : Schema} {ms : List Model} (h : Chronicle s ms) {i : Nat} {m : Model}
    (hm : ms[i]? = some m) : Entry s (ms.take i) m := by
  induction h with
  | nil => simp at hm
  | @snoc ms n _ hn ih =>
    by_cases hi : i < ms.length
    · rw [List.getElem?_append_left hi] at hm
      rw [List.take_append_of_le_length (Nat.le_of_lt hi)]
      exact ih hm
    · have hlt := (List.getElem?_eq_some_iff.mp hm).1
      rw [List.length_append, List.length_singleton] at hlt
      obtain rfl : i = ms.length := by omega
      rw [List.getElem?_concat_length] at hm
      rw [List.take_left, ← Option.some.inj hm]
      exact hn

/-! ## Every stage is recorded -/

namespace Pass

/-- The models that have ended, in this order and without marks. -/
def log (s : Scope) (p : Pass) : List Model := (s.stored ++ p.finished).map Model.unmarked

theorem ids_log (s : Scope) (p : Pass) :
    (p.log s).map (·.id) = s.stored.map (·.id) ++ p.finished.map (·.id) := by
  rw [log, List.map_map, List.map_append]
  rfl

theorem unmarked_outcome (s : Scope) (p : Pass) : (p.outcome s).map Model.unmarked = p.log s := by
  rw [outcome, log, List.map_append, List.map_append, Registry.unmarked_foldl_markStored]

theorem mem_log_iff (s : Scope) (p : Pass) (m : Model) : m ∈ p.log s ↔ p.Has s m := by
  rw [← unmarked_outcome]
  exact mem_unmarked_outcome_iff s p m

theorem log_finish (s : Scope) (p : Pass) (m : Model) :
    (p.finish m).log s = p.log s ++ [m.unmarked] := by
  simp [log, finish]

theorem log_markAll (s : Scope) (p : Pass) (ms : List Mark) : (p.markAll ms).log s = p.log s := by
  have hmodels := p.unmarked_models_markAll s ms
  rw [models, models, List.map_append, List.map_append] at hmodels
  rw [log, log, List.map_append, List.map_append, List.append_cancel_right hmodels]

theorem log_settle (s : Scope) (p : Pass) (k : Nat) : (p.settle s k).log s = p.log s := by
  unfold settle
  split
  · rfl
  · split
    · rfl
    · split
      · rfl
      · rw [conclude_eq]
        exact log_markAll s p _

end Pass

/-- The open models and those that have ended, each with what it was settled from. -/
structure Recorded (s : Scope) (a : Stage) : Prop where
  opened : Stacked s.schema (a.pass.log s) a.pass.frames a.settled
  ended : Chronicle s.schema (a.pass.log s)

section

variable {s : Scope} {p : Pass} {ks : List Nat}

theorem Traced.origin (h : Traced s ⟨p, ks⟩) {t : ModelId} (ht : p.knows s t = true) :
    Origin s.schema (p.log s) (p.frames.map (·.id)) t (p.side s t).view := by
  obtain ⟨v, hv⟩ := Option.isSome_iff_exists.mp ht
  have hside : (p.side s t).view = v := by rw [Pass.side, hv]; rfl
  rw [hside]
  rcases p.view?_cases s hv with ⟨g, hg, rfl, rfl⟩ | ⟨-, m, hm, rfl, rfl⟩
  · obtain ⟨k, -, hprogress⟩ := h.progress hg
    exact .opened (hprogress.mono fun m => (p.mem_log_iff s m).mpr) (List.mem_map_of_mem hg)
  · exact .ended ((p.mem_log_iff s _).mpr (List.mem_map_of_mem hm)) (h.of_has hm).isRecord

theorem Recorded.reaches_due {q : Demand} {id : ModelId} (h : Recorded s ⟨p, ks⟩)
    (ht : Traced s ⟨p, ks⟩) (hdue : Due s q ⟨p, ks⟩ id) :
    ∀ t ∈ p.frames.map (·.id), s.schema.Reaches t id := by
  cases hdue with
  | demanded hf => simp [hf]
  | @referred p frame rest k ks d id hf hd htarget =>
    have hrefers : s.schema.Refers frame.id id :=
      Schema.refers_of_target? (ht.top hf).1.isRecord hd htarget
    have hopened := h.opened
    rw [hf] at hopened ⊢
    cases hopened with
    | cons _ hreach _ =>
      intro t hmem
      rcases List.mem_cons.mp hmem with rfl | hmem
      · exact .single hrefers
      · exact (hreach t hmem).tail hrefers

theorem Recorded.settle {frame : Frame} {rest : List Frame} {k : Nat} {d : FieldDeclaration}
    (h : Recorded s ⟨p, k :: ks⟩) (ht : Traced s ⟨p, k :: ks⟩) (hf : p.frames = frame :: rest)
    (hd : (s.schema.exported frame.id)[k]? = some d)
    (htarget : ∀ t, d.target? = some t → p.knows s t = true) :
    Recorded s ⟨p.settle s k, (k + 1) :: ks⟩ := by
  obtain ⟨v, -, hview, heq⟩ := ht.settle_eq hf hd htarget
  -- The slot is settled after the marks, which change the frames but not what has ended.
  have hmarked := ht.markAll (declaredMarks s.schema frame.id d v)
  have hstacked := h.opened.markAll (declaredMarks s.schema frame.id d v)
  obtain ⟨frame₁, rest₁, hf₁, hid₁⟩ :=
    Pass.frames_markAll_of_cons hf (declaredMarks s.schema frame.id d v)
  have horigin : ∀ t, d.target? = some t →
      Origin s.schema (p.log s) (frame₁.id :: rest₁.map (·.id)) t v := by
    intro t hdt
    have hknown := htarget t hdt
    rw [← p.knows_markAll s (declaredMarks s.schema frame.id d v)] at hknown
    have horigin := hmarked.origin hknown
    rw [hview t hdt, Pass.log_markAll, hf₁, List.map_cons] at horigin
    exact horigin
  refine ⟨?_, by rw [Pass.log_settle]; exact h.ended⟩
  show Stacked s.schema ((p.settle s k).log s) (p.settle s k).frames ((k + 1) :: ks)
  rw [Pass.log_settle, heq, Pass.frames_modifyTop]
  rw [hf₁] at hstacked ⊢
  cases hstacked with
  | cons htop hreach hrest =>
    rw [← hid₁] at hd
    refine .cons ?_ ?_ hrest
    · rw [Frame.settle_id]
      exact htop.settle (hmarked.top hf₁).1 hd horigin
    · rw [Frame.settle_id]
      exact hreach

theorem Recorded.leave {frame : Frame} {rest : List Frame} (tableName : String)
    (hn : (p.ids s).Nodup) (ht : Traced s ⟨p, (s.schema.exported frame.id).length :: ks⟩)
    (h : Recorded s ⟨p, (s.schema.exported frame.id).length :: ks⟩)
    (hf : p.frames = frame :: rest) : Recorded s ⟨p.leave tableName, ks⟩ := by
  have hopened := h.opened
  rw [hf] at hopened
  cases hopened with
  | cons htop hreach hrest =>
    have hprogress := (ht.top hf).1.mono fun m => (p.mem_log_iff s m).mpr
    have hclosed : ∀ t ∈ frame.id :: rest.map (·.id),
        s.schema.Reaches t frame.id ∧ t ∉ (p.log s).map (·.id) := by
      intro t hmem
      refine ⟨?_, ?_⟩
      · rcases List.mem_cons.mp hmem with rfl | hmem
        · exact .refl
        · exact hreach t hmem
      · intro hlog
        rw [Pass.ids_log, List.mem_append, or_comm, ← List.mem_append] at hlog
        have hdisjoint := (List.nodup_append.mp hn).2.2
        rw [hf, List.map_cons] at hdisjoint
        exact hdisjoint t hmem t hlog rfl
    rw [Pass.leave, hf]
    refine ⟨?_, ?_⟩
    · rw [Pass.log_finish]
      exact hrest.mono fun m hm => List.mem_append_left _ hm
    · rw [Pass.log_finish]
      exact h.ended.snoc (.record hprogress htop hclosed rfl)

end

theorem Step.recorded {s : Scope} {q : Demand} {floor : Nat} {a b : Stage}
    (h : Step s q floor a b) (hn : (a.pass.ids s).Nodup) (ht : Traced s a) (ha : Recorded s a) :
    Recorded s b := by
  cases h with
  | enter hdue hnew hr =>
    exact ⟨.cons (Sourced.start _ _ _ _) (ha.reaches_due ht hdue) ha.opened, ha.ended⟩
  | @blank p ks id hdue hnew hr =>
    have hlog : (p.finish (.blank id)).log s = p.log s ++ [.blank id] := p.log_finish s _
    refine ⟨?_, ?_⟩
    · rw [hlog]
      exact ha.opened.mono fun m hm => List.mem_append_left _ hm
    · rw [hlog]
      exact ha.ended.snoc (.blank hr rfl)
  | settle hf hd htarget hfloor => exact ha.settle ht hf hd htarget
  | leave hf hfloor => exact ha.leave _ hn ht hf

theorem Occurs.log_publish {s : Scope} {p : Pass} (h : Occurs s ⟨p, []⟩) :
    Pass.log (s.publish p) {} = p.log s := by
  show ((s.publish p).stored ++ []).map Model.unmarked = p.log s
  rw [List.append_nil, h.publish_stored]
  exact p.unmarked_outcome s

theorem Occurs.recorded {s : Scope} {a : Stage} (h : Occurs s a) : Recorded s a := by
  induction h with
  | start schema singularTables => exact ⟨.nil, .nil⟩
  | step hocc hstep ih => exact hstep.recorded hocc.nodup hocc.traced ih
  | publish hp ih =>
    refine ⟨?_, ?_⟩
    · exact .nil
    · rw [hp.log_publish]
      exact ih.ended

end Resolution

/-! ## Places of a registry -/

namespace Registry

theorem mem_take_of_lt {r : Registry} {i j : Nat} {m : Model} (hm : r.models[j]? = some m)
    (hlt : j < i) : m ∈ r.models.take i := by
  have hj : (r.models.take i)[j]? = some m := by rw [List.getElem?_take_of_lt hlt, hm]
  exact List.mem_of_getElem? hj

section

variable {s : Schema} {r : Registry} (hr : Occurs (r.scope s) ⟨{}, []⟩)

include hr

theorem entry_of_getElem? {i : Nat} {m : Model} (hm : r.models[i]? = some m) :
    Entry s ((r.models.take i).map Model.unmarked) m.unmarked := by
  have hlog : Pass.log (r.scope s) {} = r.models.map Model.unmarked := by
    show (r.models ++ []).map Model.unmarked = r.models.map Model.unmarked
    rw [List.append_nil]
  have hchronicle : Chronicle s (Pass.log (r.scope s) {}) := hr.recorded.ended
  rw [hlog] at hchronicle
  rw [List.map_take]
  apply hchronicle.entry
  rw [List.getElem?_map, hm, Option.map_some]

theorem exists_place_of_refers {a : Model} {t : ModelId} (ha : a ∈ r.models)
    (href : s.Refers a.id t) : ∃ (j : Nat) (b : Model), r.models[j]? = some b ∧ b.id = t := by
  have hcontains : r.contains t = true :=
    contains_of_refers hr (contains_iff.mpr (List.mem_map_of_mem ha)) href
  obtain ⟨b, hb, hid⟩ := List.mem_map.mp (contains_iff.mp hcontains)
  obtain ⟨j, hj⟩ := List.getElem?_of_mem hb
  exact ⟨j, b, hj, hid⟩

/-- The model at place `i` was settled from models at earlier places, apart from marks, and from such that
were open and reach it. -/
theorem place_of_origin {i : Nat} {a : Model} (ha : r.models[i]? = some a) {opened : List ModelId}
    (hopened : ∀ t ∈ opened,
      s.Reaches t a.id ∧ t ∉ ((r.models.take i).map Model.unmarked).map (·.id))
    {t : ModelId} (href : s.Refers a.id t) {v : View}
    (hv : Origin s ((r.models.take i).map Model.unmarked) opened t v) :
    ∃ j b, r.models[j]? = some b ∧ b.id = t ∧
      (j < i ∧ (∃ m, v = viewModel m ∧ m.unmarked = b.unmarked) ∨
        i ≤ j ∧ s.Reaches t a.id ∧ ∃ (g : Frame) (k : Nat),
          Progress s (· ∈ (r.models.take i).map Model.unmarked) g k ∧ g.id = t ∧ v = g.view) := by
  cases hv with
  | @opened g k hg hmem =>
    obtain ⟨hreach, hlater⟩ := hopened g.id hmem
    obtain ⟨j, b, hb, hid⟩ := exists_place_of_refers hr (List.mem_of_getElem? ha) href
    -- At the places before it are models that had ended, and this one was still open.
    have hge : i ≤ j := by
      by_contra hlt
      apply hlater
      rw [← hid, List.map_map]
      exact List.mem_map_of_mem (f := fun m : Model => m.unmarked.id)
        (mem_take_of_lt hb (Nat.lt_of_not_le hlt))
    exact ⟨j, b, hb, hid, Or.inr ⟨hge, hreach, g, k, hg, rfl, rfl⟩⟩
  | @ended m hm hrecord =>
    obtain ⟨b, hb, hbm⟩ := List.mem_map.mp hm
    have hid : b.id = m.id := by
      show b.unmarked.id = m.unmarked.id
      rw [hbm]
    obtain ⟨j, hj⟩ := List.getElem?_of_mem hb
    have hlt : j < i := by
      have hlength := (List.getElem?_eq_some_iff.mp hj).1
      rw [List.length_take] at hlength
      omega
    rw [List.getElem?_take_of_lt hlt] at hj
    exact ⟨j, b, hj, hid, Or.inl ⟨hlt, m, rfl, hbm.symm⟩⟩

end

end Registry
end RecordMapping
