import RecordMapping.Proofs.Resolution.Step

/-!
Runs of the recursion, with the calls that they make.

`resolve` does not resolve a model that is open, and the recursion is seen to end by that.  `Runs`
is the recursion without this guard: a model that a field refers to is resolved if it cannot be
read, and nothing else is asked.  A run has come to its end, so that every run of `resolve` being
one says that the guard is never needed.

A model is known from the moment at which its resolution is called for, first as an open one, then
as a finished one, and in the end as a stored one.  So a later call finds more models known.
-/

namespace RecordMapping
namespace Resolution

/-- A model to resolve, or the slots of the topmost model that are left. -/
inductive Task where
  | model (id : ModelId) (instance? : Option String)
  | slots (ds : List (FieldDeclaration × Nat))

/-- A call of the resolution, with the models that can be read by then. -/
structure Call where
  model : ModelId
  opened : List ModelId
  finished : List ModelId
  stored : List ModelId

def Call.known (c : Call) : List ModelId := c.opened ++ (c.finished ++ c.stored)

def Pass.call (s : Scope) (p : Pass) (id : ModelId) : Call :=
  { model := id
    opened := p.frames.map (·.id)
    finished := p.finished.map (·.id)
    stored := s.stored.map (·.id) }

/-- The task leads from one pass to another one by these calls, in this order. -/
inductive Runs (s : Scope) : Task → Pass → List Call → Pass → Prop
  | blank {id : ModelId} {instance? : Option String} {p : Pass}
      (hr : s.schema.isRecord id = false) :
      Runs s (.model id instance?) p [p.call s id] (p.finish (.blank id))
  | record {id : ModelId} {instance? : Option String} {p p' : Pass} {calls : List Call}
      (hr : s.schema.isRecord id = true)
      (hslots : Runs s (.slots (s.schema.exported id).zipIdx) (p.enter s id) calls p') :
      Runs s (.model id instance?) p (p.call s id :: calls)
        (p'.leave (s.schema.tableName s.singularTables id instance?))
  | done {p : Pass} : Runs s (.slots []) p [] p
  | read {d : FieldDeclaration} {k : Nat} {ds : List (FieldDeclaration × Nat)} {p p' : Pass}
      {calls : List Call} (ht : ∀ t, d.target? = some t → p.knows s t = true)
      (hrest : Runs s (.slots ds) (p.settle s k) calls p') :
      Runs s (.slots ((d, k) :: ds)) p calls p'
  | reach {d : FieldDeclaration} {k : Nat} {ds : List (FieldDeclaration × Nat)} {t : ModelId}
      {p p₁ p' : Pass} {calls calls' : List Call} (ht : d.target? = some t)
      (hnew : p.knows s t = false) (htarget : Runs s (.model t none) p calls p₁)
      (hrest : Runs s (.slots ds) (p₁.settle s k) calls' p') :
      Runs s (.slots ((d, k) :: ds)) p (calls ++ calls') p'

/-- A task has one run at most. -/
theorem Runs.unique {s : Scope} {task : Task} {p p' p'' : Pass} {calls calls' : List Call}
    (h : Runs s task p calls p') (h' : Runs s task p calls' p'') : calls' = calls ∧ p'' = p' := by
  induction h generalizing calls' p'' with
  | blank hr =>
    cases h' with
    | blank => exact ⟨rfl, rfl⟩
    | record hr' => exact absurd (hr'.symm.trans hr) (by decide)
  | record hr _ ih =>
    cases h' with
    | blank hr' => exact absurd (hr.symm.trans hr') (by decide)
    | record _ hslots =>
      obtain ⟨rfl, rfl⟩ := ih hslots
      exact ⟨rfl, rfl⟩
  | done =>
    cases h'
    exact ⟨rfl, rfl⟩
  | read ht _ ih =>
    cases h' with
    | read _ hrest => exact ih hrest
    | reach ht' hnew => exact absurd ((ht _ ht').symm.trans hnew) (by decide)
  | reach ht hnew _ _ ih ih' =>
    cases h' with
    | read ht' => exact absurd ((ht' _ ht).symm.trans hnew) (by decide)
    | reach ht' _ htarget hrest =>
      obtain rfl := Option.some.inj (ht'.symm.trans ht)
      obtain ⟨rfl, rfl⟩ := ih htarget
      obtain ⟨rfl, rfl⟩ := ih' hrest
      exact ⟨rfl, rfl⟩

/-! ## Calls for new models -/

/-- Each call is for a model that is not known by then.  Known are the models that were so from the
start and those of the calls before. -/
inductive Fresh : List ModelId → List Call → Prop
  | nil {known : List ModelId} : Fresh known []
  | cons {known : List ModelId} {c : Call} {calls : List Call} (hknown : c.known.Perm known)
      (hnew : c.model ∉ known) (hrest : Fresh (c.model :: known) calls) : Fresh known (c :: calls)

section

variable {known known' : List ModelId} {calls calls' : List Call} {c c' : Call}

theorem Fresh.perm (h : Fresh known calls) (hperm : known.Perm known') : Fresh known' calls := by
  induction h generalizing known' with
  | nil => exact .nil
  | cons hknown hnew _ ih =>
    exact .cons (hknown.trans hperm) (mt hperm.mem_iff.mpr hnew) (ih (hperm.cons _))

theorem Fresh.append (h : Fresh known calls) (h' : Fresh (calls.map (·.model) ++ known) calls') :
    Fresh known (calls ++ calls') := by
  induction h with
  | nil => exact h'
  | cons hknown hnew _ ih => exact .cons hknown hnew (ih (h'.perm List.perm_middle.symm))

theorem Fresh.subset (h : Fresh known calls) (hc : c ∈ calls) : known ⊆ c.known := by
  induction h with
  | nil => exact absurd hc List.not_mem_nil
  | cons hknown _ _ ih =>
    rcases List.mem_cons.mp hc with rfl | hc
    · exact hknown.symm.subset
    · exact List.Subset.trans (List.subset_cons_self _ _) (ih hc)

theorem Fresh.model_notMem (h : Fresh known calls) (hc : c ∈ calls) : c.model ∉ c.known := by
  induction h with
  | nil => exact absurd hc List.not_mem_nil
  | cons hknown hnew _ ih =>
    rcases List.mem_cons.mp hc with rfl | hc
    · exact mt hknown.mem_iff.mp hnew
    · exact ih hc

theorem Fresh.nodup (h : Fresh known calls) (hknown : known.Nodup) :
    (calls.map (·.model) ++ known).Nodup := by
  induction h with
  | nil => exact hknown
  | cons _ hnew _ ih =>
    exact List.perm_middle.nodup_iff.mp (ih (List.nodup_cons.mpr ⟨hnew, hknown⟩))

/-- A call that finds the model of another one known comes later, and finds known what that one
found. -/
theorem Fresh.known_subset (h : Fresh known calls) (hc : c ∈ calls) (hc' : c' ∈ calls)
    (hmem : c.model ∈ c'.known) : c.known ⊆ c'.known := by
  induction h with
  | nil => exact absurd hc List.not_mem_nil
  | cons hknown _ hrest ih =>
    rcases List.mem_cons.mp hc, List.mem_cons.mp hc' with ⟨rfl | hlater, rfl | hlater'⟩
    · exact List.Subset.refl _
    · exact fun t ht => hrest.subset hlater' (List.mem_cons_of_mem _ (hknown.mem_iff.mp ht))
    · have hself := hrest.subset hlater (List.mem_cons_of_mem _ (hknown.mem_iff.mp hmem))
      exact absurd hself (hrest.model_notMem hlater)
    · exact ih hlater hlater'

end

/-! ## What a run does -/

/-- The run opens no model for good.  It makes known the models that it calls for, and calls for those
alone that are not known.  What is open is a record. -/
structure Accounted (s : Scope) (p : Pass) (calls : List Call) (p' : Pass) : Prop where
  frames : p'.frames.map (·.id) = p.frames.map (·.id)
  ids : (p'.ids s).Perm (calls.map (·.model) ++ p.ids s)
  fresh : Fresh (p.ids s) calls
  opened : (∀ t ∈ p.frames.map (·.id), s.schema.isRecord t = true) →
    ∀ c ∈ calls, ∀ t ∈ c.opened, s.schema.isRecord t = true

/-- The model to resolve is not known. -/
def Task.IsNew (s : Scope) (p : Pass) : Task → Prop
  | .model id _ => id ∉ p.ids s
  | .slots _ => True

section

variable {s : Scope} {p p' : Pass} {id : ModelId} {calls calls' : List Call}

theorem Accounted.settle {k : Nat} (h : Accounted s (p.settle s k) calls p') :
    Accounted s p calls p' := by
  have hframes := p.frames_ids_settle s k
  have hids := p.ids_settle s k
  exact ⟨h.frames.trans hframes, hids ▸ h.ids, hids ▸ h.fresh, hframes ▸ h.opened⟩

theorem Accounted.append {p₁ : Pass} (h : Accounted s p calls p₁) (h' : Accounted s p₁ calls' p') :
    Accounted s p (calls ++ calls') p' := by
  refine ⟨h'.frames.trans h.frames, ?_, h.fresh.append (h'.fresh.perm h.ids), ?_⟩
  · have hids : (p'.ids s).Perm (calls'.map (·.model) ++ (calls.map (·.model) ++ p.ids s)) :=
      h'.ids.trans (h.ids.append_left _)
    rw [← List.append_assoc] at hids
    rw [List.map_append]
    exact hids.trans (List.perm_append_comm.append_right _)
  · intro hrecords c hc
    rcases List.mem_append.mp hc with hc | hc
    · exact h.opened hrecords c hc
    · exact h'.opened (h.frames ▸ hrecords) c hc

theorem Accounted.blank (hnew : id ∉ p.ids s) :
    Accounted s p [p.call s id] (p.finish (.blank id)) := by
  refine ⟨rfl, p.ids_finish_perm s (.blank id), .cons (.refl _) hnew .nil, ?_⟩
  intro hrecords c hc
  rw [List.mem_singleton.mp hc]
  exact hrecords

theorem Accounted.record (hr : s.schema.isRecord id = true) (hnew : id ∉ p.ids s)
    (h : Accounted s (p.enter s id) calls p') (tableName : String) :
    Accounted s p (p.call s id :: calls) (p'.leave tableName) := by
  obtain ⟨frame, rest, hf, -, hrest⟩ := List.map_eq_cons_iff.mp h.frames
  refine ⟨?_, ?_, .cons (.refl _) hnew h.fresh, ?_⟩
  · rw [Pass.leave_of_frames hf]
    exact hrest
  · have hids : (p'.ids s).Perm (calls.map (·.model) ++ id :: p.ids s) := h.ids
    exact (Pass.ids_leave_perm s hf tableName).trans (hids.trans List.perm_middle)
  · intro hrecords c hc
    rcases List.mem_cons.mp hc with rfl | hc
    · exact hrecords
    · refine h.opened ?_ c hc
      intro t ht
      rcases List.mem_cons.mp ht with rfl | ht
      · exact hr
      · exact hrecords t ht

theorem Runs.accounted {task : Task} (h : Runs s task p calls p') (hnew : task.IsNew s p) :
    Accounted s p calls p' := by
  induction h with
  | blank hr => exact .blank hnew
  | record hr _ ih => exact .record hr hnew (ih trivial) _
  | done => exact ⟨rfl, .refl _, .nil, by simp⟩
  | read _ _ ih => exact (ih trivial).settle
  | reach _ htarget _ _ ih ih' =>
    exact (ih (Pass.knows_eq_false_iff.mp htarget)).append (ih' trivial).settle

/-- The finished models of a pass are those that it called for. -/
theorem Runs.finished_perm {instance? : Option String}
    (h : Runs s (.model id instance?) {} calls p') (hnew : id ∉ s.stored.map (·.id)) :
    (p'.finished.map (·.id)).Perm (calls.map (·.model)) := by
  have haccounted := h.accounted hnew
  have hframes : p'.frames.map (·.id) = [] := haccounted.frames
  have hids := haccounted.ids
  rw [Pass.ids, hframes] at hids
  exact (List.perm_append_right_iff _).mp hids

end

/-! ## Resolution runs -/

section

variable {s : Scope} {opened : List ModelId} {id : ModelId}

theorem exists_runs_slots
    (hcalls : ∀ (p : Pass) (t : ModelId), p.frames.map (·.id) = id :: opened → t ∉ p.ids s →
      ∃ calls, Runs s (.model t none) p calls (resolve s (id :: opened) t none p))
    (ds : List (FieldDeclaration × Nat)) {p : Pass} (hp : p.frames.map (·.id) = id :: opened) :
    ∃ calls, Runs s (.slots ds) p calls (ds.foldl (visit s (id :: opened)) p) := by
  induction ds generalizing p with
  | nil => exact ⟨[], .done⟩
  | cons slot ds ih =>
    obtain ⟨d, k⟩ := slot
    have hsettle : ∀ p₁ : Pass, p₁.frames.map (·.id) = id :: opened →
        (p₁.settle s k).frames.map (·.id) = id :: opened := by
      intro p₁ hp₁
      rw [Pass.frames_ids_settle, hp₁]
    rw [List.foldl_cons, visit]
    cases ht : d.target? with
    | none =>
      obtain ⟨calls, hrest⟩ := ih (hsettle p hp)
      exact ⟨calls, .read (by simp [ht]) hrest⟩
    | some t =>
      cases hknown : p.knows s t with
      | true =>
        obtain ⟨calls, hrest⟩ := ih (hsettle p hp)
        rw [reach, if_pos hknown]
        refine ⟨calls, .read ?_ hrest⟩
        intro u hu
        rw [← Option.some.inj (ht.symm.trans hu), hknown]
      | false =>
        have hnew : t ∉ p.ids s := Pass.knows_eq_false_iff.mp hknown
        obtain ⟨calls, htarget⟩ := hcalls p t hp hnew
        have hframes := (htarget.accounted hnew).frames
        obtain ⟨calls', hrest⟩ := ih (hsettle _ (hframes.trans hp))
        rw [reach, if_neg (by simp [hknown])]
        exact ⟨calls ++ calls', .reach ht hknown htarget hrest⟩

/-- Resolving a model that is not known is a run: no recursive call is for a model that is open. -/
theorem exists_runs (s : Scope) (opened : List ModelId) (id : ModelId) (instance? : Option String)
    (p : Pass) (hp : p.frames.map (·.id) = opened) (hnew : id ∉ p.ids s) :
    ∃ calls, Runs s (.model id instance?) p calls (resolve s opened id instance? p) := by
  induction opened, id, instance?, p using resolve.induct s with
  | case1 opened id instance? p hopen ih =>
    obtain ⟨hr, ho⟩ := hopen
    have hentered : (p.enter s id).frames.map (·.id) = id :: opened := by
      rw [← hp]
      rfl
    obtain ⟨calls, hslots⟩ := exists_runs_slots ih (s.schema.exported id).zipIdx hentered
    rw [resolve_of_isRecord hr ho]
    exact ⟨_, .record hr hslots⟩
  | case2 opened id instance? p hopen =>
    have ho : id ∉ opened := by
      rw [← hp]
      exact fun hmem => hnew (List.mem_append_left _ hmem)
    have hr : s.schema.isRecord id = false := by
      rw [← Bool.not_eq_true]
      exact fun hr => hopen ⟨hr, ho⟩
    rw [resolve_of_not_isRecord hr]
    exact ⟨_, .blank hr⟩

end
end Resolution
end RecordMapping
