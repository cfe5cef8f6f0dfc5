import Mathlib.Logic.Relation
import RecordMapping.Registry

/-!
A pass as a sequence of steps.

Resolution recurses through the models that it meets.  Here the recursion is taken apart: a model is
entered, its slots are settled one after the other, and it is left.  What a single step keeps, the
whole recursion keeps, so that no later proof has to follow the recursion again.
-/

namespace RecordMapping
namespace Resolution

/-! ## The recursion without its loop -/

/-- Resolve the model that a field refers to, unless it is known. -/
def reach (s : Scope) (opened : List ModelId) (p : Pass) (target? : Option ModelId) : Pass :=
  match target? with
  | none => p
  | some target => if p.knows s target then p else resolve s opened target none p

def visit (s : Scope) (opened : List ModelId) (p : Pass) (slot : FieldDeclaration × Nat) : Pass :=
  (reach s opened p slot.1.target?).settle s slot.2

theorem resolve_of_isRecord {s : Scope} {opened : List ModelId} {id : ModelId}
    (hr : s.schema.isRecord id = true) (ho : id ∉ opened) (instance? : Option String) (p : Pass) :
    resolve s opened id instance? p =
      ((s.schema.exported id).zipIdx.foldl (visit s (id :: opened)) (p.enter s id)).leave
        (s.schema.tableName s.singularTables id instance?) := by
  rw [resolve, dif_pos ⟨hr, ho⟩]
  rfl

theorem resolve_of_not_isRecord {s : Scope} {id : ModelId} (hr : s.schema.isRecord id = false)
    (opened : List ModelId) (instance? : Option String) (p : Pass) :
    resolve s opened id instance? p = p.finish (.blank id) := by
  rw [resolve, dif_neg (by simp [hr])]

/-! ## The models of a pass -/

namespace Pass

/-- Every model whose fields can be read. -/
def ids (s : Scope) (p : Pass) : List ModelId :=
  p.frames.map (·.id) ++ (p.finished.map (·.id) ++ s.stored.map (·.id))

theorem knows_iff {s : Scope} {p : Pass} {id : ModelId} : p.knows s id = true ↔ id ∈ p.ids s := by
  simp only [knows, view?, ids, Option.isSome_or, Option.isSome_map, List.isSome_find?,
    Bool.or_eq_true, List.any_eq_true, beq_iff_eq, List.mem_append, List.mem_map]

theorem knows_eq_false_iff {s : Scope} {p : Pass} {id : ModelId} :
    p.knows s id = false ↔ id ∉ p.ids s := by
  rw [← knows_iff, Bool.not_eq_true]

theorem ids_enter (s : Scope) (p : Pass) (id : ModelId) : (p.enter s id).ids s = id :: p.ids s := rfl

theorem frames_ids_mark (p : Pass) (m : Mark) :
    (p.mark m).frames.map (·.id) = p.frames.map (·.id) := by
  unfold mark
  split
  · rw [List.map_map]
    apply List.map_congr_left
    intro f _
    show (if f.id = m.model then f.mark m.field else f).id = f.id
    split <;> rfl
  · rfl

theorem finished_ids_mark (p : Pass) (m : Mark) :
    (p.mark m).finished.map (·.id) = p.finished.map (·.id) := by
  unfold mark
  split
  · rfl
  · rw [List.map_map]
    apply List.map_congr_left
    intro x _
    show (if x.id = m.model then x.mark m.field else x).id = x.id
    split <;> rfl

theorem frames_ids_markAll (p : Pass) (ms : List Mark) :
    (p.markAll ms).frames.map (·.id) = p.frames.map (·.id) := by
  induction ms generalizing p with
  | nil => rfl
  | cons m ms ih =>
    rw [show p.markAll (m :: ms) = (p.mark m).markAll ms from rfl, ih, frames_ids_mark]

theorem finished_ids_markAll (p : Pass) (ms : List Mark) :
    (p.markAll ms).finished.map (·.id) = p.finished.map (·.id) := by
  induction ms generalizing p with
  | nil => rfl
  | cons m ms ih =>
    rw [show p.markAll (m :: ms) = (p.mark m).markAll ms from rfl, ih, finished_ids_mark]

theorem ids_markAll (s : Scope) (p : Pass) (ms : List Mark) : (p.markAll ms).ids s = p.ids s := by
  rw [ids, ids, frames_ids_markAll, finished_ids_markAll]

end Pass

namespace Frame

/-- The frame after what was found for slot `i`.  An embedded model's fields come from `fields`. -/
def conclude (f : Frame) (i : Nat) (fields : List Field) : Outcome → Frame
  | .column scanner => f.store i scanner
  | .related r => f.relate i r
  | .unresolved foreignKey => f.leaveUnresolved i foreignKey
  | .embedded => f.embed i fields

@[simp]
theorem conclude_id (f : Frame) (i : Nat) (fields : List Field) (o : Outcome) :
    (f.conclude i fields o).id = f.id := by
  cases o with
  | column scanner =>
    simp only [conclude, store]
    split <;> rfl
  | embedded => rfl
  | related r => rfl
  | unresolved foreignKey =>
    simp only [conclude, leaveUnresolved]
    split <;> rfl

end Frame

namespace Pass

theorem conclude_eq (s : Scope) (p : Pass) (i : Nat) (target : ModelId) (o : Outcome) :
    p.conclude s i target o =
      p.modifyTop (·.conclude i (p.side s target).view.fields o) := by
  cases o <;> rfl

theorem frames_ids_modifyTop (p : Pass) {g : Frame → Frame} (hg : ∀ f, (g f).id = f.id) :
    (p.modifyTop g).frames.map (·.id) = p.frames.map (·.id) := by
  cases hf : p.frames with
  | nil => simp [modifyTop, hf]
  | cons f rest => simp [modifyTop, hf, hg]

theorem frames_ids_settle (s : Scope) (p : Pass) (k : Nat) :
    (p.settle s k).frames.map (·.id) = p.frames.map (·.id) := by
  cases hf : p.frames with
  | nil => simp [settle, hf]
  | cons frame rest =>
    simp only [settle, hf]
    split
    · rw [hf]
    · split
      · rw [hf]
      · rw [conclude_eq, frames_ids_modifyTop _ (fun f => f.conclude_id _ _ _), frames_ids_markAll,
          hf]

theorem finished_ids_settle (s : Scope) (p : Pass) (k : Nat) :
    (p.settle s k).finished.map (·.id) = p.finished.map (·.id) := by
  cases hf : p.frames with
  | nil => simp [settle, hf]
  | cons frame rest =>
    simp only [settle, hf]
    split
    · rfl
    · split
      · rfl
      · rw [conclude_eq]
        exact finished_ids_markAll p _

theorem ids_settle (s : Scope) (p : Pass) (k : Nat) : (p.settle s k).ids s = p.ids s := by
  rw [ids, ids, frames_ids_settle, finished_ids_settle]

theorem ids_finish_perm (s : Scope) (p : Pass) (m : Model) :
    ((p.finish m).ids s).Perm (m.id :: p.ids s) := by
  simp only [ids, finish, List.map_append, List.map_cons, List.map_nil, List.append_assoc,
    List.singleton_append]
  rw [← List.append_assoc, ← List.append_assoc]
  exact List.perm_middle

theorem leave_of_frames {p : Pass} {frame : Frame} {rest : List Frame}
    (hf : p.frames = frame :: rest) (tableName : String) :
    p.leave tableName =
      { p with frames := rest, finished := p.finished ++ [frame.toModel tableName] } := by
  simp [leave, hf, finish]

theorem ids_leave_perm (s : Scope) {p : Pass} {frame : Frame} {rest : List Frame}
    (hf : p.frames = frame :: rest) (tableName : String) :
    ((p.leave tableName).ids s).Perm (p.ids s) := by
  have h := ids_finish_perm s { p with frames := rest } (frame.toModel tableName)
  simpa [ids, leave, hf, Frame.toModel] using h

end Pass

/-! ## Steps -/

/-- What a pass was begun for. -/
structure Demand where
  model : ModelId
  instance? : Option String

/-- A pass between two steps, with the number of slots that are settled in each of its frames. -/
structure Stage where
  pass : Pass
  settled : List Nat

/-- The model that is next: the demanded one in the beginning, and then whatever the next slot of
the topmost model refers to. -/
inductive Due (s : Scope) (q : Demand) : Stage → ModelId → Prop
  | demanded {p : Pass} (hf : p.frames = []) : Due s q ⟨p, []⟩ q.model
  | referred {p : Pass} {frame : Frame} {rest : List Frame} {k : Nat} {ks : List Nat}
      {d : FieldDeclaration} {id : ModelId} (hf : p.frames = frame :: rest)
      (hd : (s.schema.exported frame.id)[k]? = some d) (ht : d.target? = some id) :
      Due s q ⟨p, k :: ks⟩ id

/-- One step.  The lowest `floor` frames are not worked on, though marks may reach them. -/
inductive Step (s : Scope) (q : Demand) (floor : Nat) : Stage → Stage → Prop
  | enter {p : Pass} {ks : List Nat} {id : ModelId} (hdue : Due s q ⟨p, ks⟩ id)
      (hnew : p.knows s id = false) (hr : s.schema.isRecord id = true) :
      Step s q floor ⟨p, ks⟩ ⟨p.enter s id, 0 :: ks⟩
  | blank {p : Pass} {ks : List Nat} {id : ModelId} (hdue : Due s q ⟨p, ks⟩ id)
      (hnew : p.knows s id = false) (hr : s.schema.isRecord id = false) :
      Step s q floor ⟨p, ks⟩ ⟨p.finish (.blank id), ks⟩
  | settle {p : Pass} {frame : Frame} {rest : List Frame} {k : Nat} {ks : List Nat}
      {d : FieldDeclaration} (hf : p.frames = frame :: rest)
      (hd : (s.schema.exported frame.id)[k]? = some d)
      (ht : ∀ t, d.target? = some t → p.knows s t = true) (hfloor : floor ≤ ks.length) :
      Step s q floor ⟨p, k :: ks⟩ ⟨p.settle s k, (k + 1) :: ks⟩
  | leave {p : Pass} {frame : Frame} {rest : List Frame} {ks : List Nat}
      (hf : p.frames = frame :: rest) (hfloor : floor ≤ ks.length) :
      Step s q floor ⟨p, (s.schema.exported frame.id).length :: ks⟩
        ⟨p.leave (s.schema.tableName s.singularTables frame.id
          (if ks = [] then q.instance? else none)), ks⟩

abbrev Steps (s : Scope) (q : Demand) (floor : Nat) : Stage → Stage → Prop :=
  Relation.ReflTransGen (Step s q floor)

namespace Stage

def ids (st : Stage) : List ModelId := st.pass.frames.map (·.id)

def Balanced (st : Stage) : Prop := st.settled.length = st.ids.length

end Stage

section

variable {s : Scope} {q : Demand} {floor : Nat} {a b : Stage}

theorem Step.lower {m : Nat} (h : Step s q floor a b) (hm : m ≤ floor) : Step s q m a b := by
  cases h with
  | enter hdue hnew hr => exact .enter hdue hnew hr
  | blank hdue hnew hr => exact .blank hdue hnew hr
  | settle hf hd ht hfloor => exact .settle hf hd ht (Nat.le_trans hm hfloor)
  | leave hf hfloor => exact .leave hf (Nat.le_trans hm hfloor)

theorem Steps.lower {m : Nat} (h : Steps s q floor a b) (hm : m ≤ floor) : Steps s q m a b :=
  Relation.ReflTransGen.mono (fun _ _ => (Step.lower · hm)) _ _ h

theorem Step.balanced (h : Step s q floor a b) (ha : a.Balanced) : b.Balanced := by
  unfold Stage.Balanced Stage.ids at *
  cases h with
  | enter hdue hnew hr => simpa [Pass.enter] using ha
  | blank hdue hnew hr => exact ha
  | settle hf hd ht hfloor => rw [Pass.frames_ids_settle]; exact ha
  | leave hf hfloor =>
    rw [Pass.leave_of_frames hf]
    simpa [hf] using ha

theorem Steps.balanced (h : Steps s q floor a b) (ha : a.Balanced) : b.Balanced := by
  induction h with
  | refl => exact ha
  | tail _ hstep ih => exact hstep.balanced ih

theorem Step.suffix {base : List ModelId} (h : Step s q floor a b) (ha : a.Balanced)
    (hl : base.length ≤ floor) (hbase : base <:+ a.ids) : base <:+ b.ids := by
  unfold Stage.Balanced Stage.ids at *
  cases h with
  | enter hdue hnew hr => exact hbase.trans (List.suffix_cons _ _)
  | blank hdue hnew hr => exact hbase
  | settle hf hd ht hfloor => rwa [Pass.frames_ids_settle]
  | leave hf hfloor =>
    rw [Pass.leave_of_frames hf]
    rw [hf, List.map_cons] at hbase
    rcases List.suffix_cons_iff.mp hbase with heq | hrest
    · have hlen := congrArg List.length heq
      simp only [hf, List.map_cons, List.length_cons, List.length_map] at ha hlen
      omega
    · exact hrest

theorem Steps.suffix {base : List ModelId} (h : Steps s q floor a b) (ha : a.Balanced)
    (hl : base.length ≤ floor) (hbase : base <:+ a.ids) : base <:+ b.ids := by
  induction h with
  | refl => exact hbase
  | tail hsteps hstep ih => exact hstep.suffix (Steps.balanced hsteps ha) hl ih

/-- Steps that end at their floor end with the frames they began with. -/
theorem Steps.ids_eq (h : Steps s q a.settled.length a b) (ha : a.Balanced)
    (hb : b.settled.length = a.settled.length) : b.ids = a.ids := by
  have hsuffix := h.suffix ha (Nat.le_of_eq ha.symm) (List.suffix_refl _)
  have hbalanced : b.settled.length = b.ids.length := h.balanced ha
  have ha' : a.settled.length = a.ids.length := ha
  exact (hsuffix.eq_of_length (by omega)).symm

theorem Step.known (h : Step s q floor a b) {id : ModelId} (ha : id ∈ a.pass.ids s) :
    id ∈ b.pass.ids s := by
  cases h with
  | enter hdue hnew hr =>
    rw [Pass.ids_enter]
    exact List.mem_cons_of_mem _ ha
  | blank hdue hnew hr =>
    exact (Pass.ids_finish_perm s _ _).mem_iff.mpr (List.mem_cons_of_mem _ ha)
  | settle hf hd ht hfloor => rwa [Pass.ids_settle]
  | leave hf hfloor => exact (Pass.ids_leave_perm s hf _).mem_iff.mpr ha

end

/-! ## Resolution proceeds by steps -/

/-- The circumstances under which a pass resolves a model. -/
structure Called (s : Scope) (q : Demand) (opened : List ModelId) (id : ModelId)
    (instance? : Option String) (p : Pass) (ks : List Nat) : Prop where
  due : Due s q ⟨p, ks⟩ id
  new : p.knows s id = false
  frames : p.frames.map (·.id) = opened
  balanced : ks.length = opened.length
  name : instance? = if ks = [] then q.instance? else none

/-- What such a call does: steps above the frames that it finds, the last of which adds the model. -/
structure Answered (s : Scope) (q : Demand) (id : ModelId) (p p' : Pass) (ks : List Nat) :
    Prop where
  steps : Steps s q ks.length ⟨p, ks⟩ ⟨p', ks⟩
  last : ∃ before m, p'.finished = before ++ [m] ∧ m.id = id

theorem Answered.knows {s : Scope} {q : Demand} {id : ModelId} {p p' : Pass} {ks : List Nat}
    (h : Answered s q id p p' ks) : p'.knows s id = true := by
  obtain ⟨before, m, hfin, rfl⟩ := h.last
  rw [Pass.knows_iff]
  simp [Pass.ids, hfin]

section

variable {s : Scope} {q : Demand} {opened : List ModelId} {id : ModelId} {ks : List Nat}
  (hks : ks.length = opened.length)
  (hcalls : ∀ (p : Pass) (t : ModelId) (js : List Nat), Called s q (id :: opened) t none p js →
    Answered s q t p (resolve s (id :: opened) t none p) js)

include hks hcalls

/-- The model that a field refers to is known once it has been reached. -/
theorem steps_reach {p : Pass} {k : Nat} {d : FieldDeclaration}
    (hp : p.frames.map (·.id) = id :: opened) (hd : (s.schema.exported id)[k]? = some d) :
    Steps s q (ks.length + 1) ⟨p, k :: ks⟩ ⟨reach s (id :: opened) p d.target?, k :: ks⟩ ∧
      ∀ t, d.target? = some t → (reach s (id :: opened) p d.target?).knows s t = true := by
  obtain ⟨frame, rest, hf, hid, -⟩ := List.map_eq_cons_iff.mp hp
  cases ht : d.target? with
  | none => exact ⟨.refl, by simp⟩
  | some t =>
    by_cases hknown : p.knows s t = true
    · simp only [reach, hknown, if_true]
      exact ⟨.refl, by simp [hknown]⟩
    · simp only [reach, hknown]
      have hcall : Called s q (id :: opened) t none p (k :: ks) :=
        { due := .referred hf (by rw [hid]; exact hd) ht
          new := by simpa using hknown
          frames := hp
          balanced := by simp [hks]
          name := by simp }
      have hanswer := hcalls p t (k :: ks) hcall
      exact ⟨hanswer.steps, by simpa using hanswer.knows⟩

/-- One slot after the other, if the models that they refer to are resolved as they should be.  The
induction is over the declarations that are left, `k` being the number of those done. -/
theorem steps_visits (ds : List FieldDeclaration) (k : Nat) (p : Pass)
    (hds : (s.schema.exported id).drop k = ds) (hp : p.frames.map (·.id) = id :: opened) :
    Steps s q ks.length ⟨p, k :: ks⟩
        ⟨(ds.zipIdx k).foldl (visit s (id :: opened)) p, (k + ds.length) :: ks⟩ ∧
      ((ds.zipIdx k).foldl (visit s (id :: opened)) p).frames.map (·.id) = id :: opened := by
  induction ds generalizing k p with
  | nil => exact ⟨.refl, hp⟩
  | cons d ds ih =>
    have hd : (s.schema.exported id)[k]? = some d := by
      rw [← List.head?_drop, hds, List.head?_cons]
    have hds' : (s.schema.exported id).drop (k + 1) = ds := by
      rw [← List.tail_drop, hds, List.tail_cons]
    have hbalanced : Stage.Balanced ⟨p, k :: ks⟩ := by
      simp [Stage.Balanced, Stage.ids, hp, hks]
    obtain ⟨hsteps, htarget⟩ := steps_reach hks hcalls hp hd
    generalize hp₁ : reach s (id :: opened) p d.target? = p₁ at hsteps htarget
    have hids : p₁.frames.map (·.id) = id :: opened := by
      have heq := Steps.ids_eq (a := ⟨p, k :: ks⟩) (b := ⟨p₁, k :: ks⟩) hsteps hbalanced rfl
      exact heq.trans hp
    obtain ⟨frame₁, rest₁, hf₁, hid₁, -⟩ := List.map_eq_cons_iff.mp hids
    have hsettle : Step s q ks.length ⟨p₁, k :: ks⟩ ⟨p₁.settle s k, (k + 1) :: ks⟩ :=
      .settle hf₁ (by rw [hid₁]; exact hd) htarget (Nat.le_refl _)
    have hlater := ih (k + 1) (p₁.settle s k) hds' (by rw [Pass.frames_ids_settle, hids])
    have hvisit : visit s (id :: opened) p (d, k) = p₁.settle s k := by rw [visit, hp₁]
    rw [List.zipIdx_cons, List.foldl_cons, hvisit, List.length_cons, Nat.add_comm ds.length 1,
      ← Nat.add_assoc]
    exact ⟨((hsteps.lower (Nat.le_succ _)).tail hsettle).trans hlater.1, hlater.2⟩

end

theorem resolve_answers (s : Scope) (q : Demand) (opened : List ModelId) (id : ModelId)
    (instance? : Option String) (p : Pass) :
    ∀ ks, Called s q opened id instance? p ks →
      Answered s q id p (resolve s opened id instance? p) ks := by
  induction opened, id, instance?, p using resolve.induct s with
  | case1 opened id instance? p hopen ih =>
    intro ks h
    obtain ⟨hr, ho⟩ := hopen
    obtain ⟨hvisits, hids⟩ := steps_visits h.balanced ih (s.schema.exported id) 0 (p.enter s id)
      rfl (by simp [Pass.enter, Frame.ofDeclarations, h.frames])
    rw [resolve_of_isRecord hr ho, h.name]
    generalize (s.schema.exported id).zipIdx.foldl (visit s (id :: opened)) (p.enter s id) = p₁
      at hvisits hids
    obtain ⟨frame, rest, hf, rfl, -⟩ := List.map_eq_cons_iff.mp hids
    have henter : Step s q ks.length ⟨p, ks⟩ ⟨p.enter s frame.id, 0 :: ks⟩ :=
      .enter h.due h.new hr
    have hleave := Step.leave (s := s) (q := q) hf (Nat.le_refl ks.length)
    rw [Nat.zero_add] at hvisits
    refine ⟨(Relation.ReflTransGen.head henter hvisits).tail hleave, p₁.finished, ?_⟩
    rw [Pass.leave_of_frames hf]
    exact ⟨_, rfl, rfl⟩
  | case2 opened id instance? p hopen =>
    intro ks h
    have ho : id ∉ opened := by
      intro hmem
      have hknown : p.knows s id = true := by
        rw [Pass.knows_iff, Pass.ids, h.frames]
        exact List.mem_append_left _ hmem
      rw [h.new] at hknown
      contradiction
    have hr : s.schema.isRecord id = false := by
      cases hr : s.schema.isRecord id with
      | false => rfl
      | true => exact absurd ⟨hr, ho⟩ hopen
    rw [resolve_of_not_isRecord hr]
    exact ⟨.single (.blank h.due h.new hr), p.finished, .blank id, rfl, rfl⟩

end Resolution
end RecordMapping
