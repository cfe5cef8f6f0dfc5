import Mathlib.Data.List.Nodup
import RecordMapping.Proofs.Marks
import RecordMapping.Proofs.Resolution.Step

/-!
Sessions: what a registry can hold, and what its passes can be like.

A registry starts empty, a request for a model that is not there runs a pass, and the end of a pass
is published.  `Occurs` holds of every stage that this can lead to, so that an invariant is proved
once for a step and once for publishing, and then holds of every registry.
-/

namespace RecordMapping

open Resolution

namespace Resolution

/-- What the next pass starts from. -/
def Scope.publish (s : Scope) (p : Pass) : Scope :=
  { s with stored := p.finished.foldl Registry.insertNew (p.marks.foldl Registry.markStored s.stored) }

/-- The stages of passes over what earlier passes have stored. -/
inductive Occurs : Scope → Stage → Prop
  | start (schema : Schema) (singularTables : Bool) :
      Occurs { schema, singularTables, stored := [] } ⟨{}, []⟩
  | step {s : Scope} {q : Demand} {floor : Nat} {a b : Stage} (ha : Occurs s a)
      (hstep : Step s q floor a b) : Occurs s b
  | publish {s : Scope} {p : Pass} (hp : Occurs s ⟨p, []⟩) : Occurs (s.publish p) ⟨{}, []⟩

theorem Occurs.steps {s : Scope} {q : Demand} {floor : Nat} {a b : Stage} (ha : Occurs s a)
    (hsteps : Steps s q floor a b) : Occurs s b := by
  induction hsteps with
  | refl => exact ha
  | tail _ hstep ih => exact ih.step hstep

end Resolution

/-! ## Requests -/

namespace Registry

def Request.demand (q : Request) : Demand := { model := q.model, instance? := q.instance? }

/-- The pass that a request runs if its model is not there. -/
def passFor (s : Schema) (r : Registry) (q : Request) : Pass :=
  run (r.scope s) q.model q.instance?

theorem position?_eq_none_iff {r : Registry} {id : ModelId} :
    r.position? id = none ↔ id ∉ r.models.map (·.id) := by
  simp [position?, List.findIdx?_eq_none_iff]

theorem contains_iff {r : Registry} {id : ModelId} :
    r.contains id = true ↔ id ∈ r.models.map (·.id) := by
  simp [contains]

theorem contains_eq_false_iff {r : Registry} {id : ModelId} :
    r.contains id = false ↔ r.position? id = none := by
  rw [position?_eq_none_iff, ← contains_iff, Bool.not_eq_true]

theorem getElem?_of_position? {r : Registry} {id : ModelId} {i : Nat}
    (h : r.position? id = some i) : ∃ m, r.models[i]? = some m ∧ m.id = id := by
  unfold position? at h
  rw [List.findIdx?_eq_some_iff_getElem] at h
  obtain ⟨hlt, hid, -⟩ := h
  exact ⟨r.models[i], List.getElem?_eq_getElem hlt, beq_iff_eq.mp hid⟩

theorem serve_of_contains (s : Schema) {r : Registry} {q : Request}
    (h : r.contains q.model = true) : (r.serve s q).1 = { r with hits := r.hits + 1 } := by
  have hpos : r.position? q.model ≠ none := by
    rw [Ne, ← contains_eq_false_iff, Bool.not_eq_false]
    exact h
  obtain ⟨i, hi⟩ := Option.ne_none_iff_exists'.mp hpos
  simp only [serve, fetch, hi]

theorem serve_of_new (s : Schema) {r : Registry} {q : Request}
    (h : r.contains q.model = false) :
    (r.serve s q).1 = { r with misses := r.misses + 1 }.publish (r.passFor s q) := by
  simp only [serve, fetch, contains_eq_false_iff.mp h]
  rfl

/-- A request either finds its model or publishes a pass. -/
theorem models_serve (s : Schema) (r : Registry) (q : Request) :
    (r.contains q.model = true ∧ (r.serve s q).1.models = r.models) ∨
      (r.contains q.model = false ∧
        (r.serve s q).1.models = ((r.scope s).publish (r.passFor s q)).stored) := by
  cases hq : r.contains q.model with
  | true => exact .inl ⟨rfl, by rw [serve_of_contains s hq]⟩
  | false => exact .inr ⟨rfl, by rw [serve_of_new s hq]; rfl⟩

theorem config_serve (s : Schema) (r : Registry) (q : Request) :
    (r.serve s q).1.config = r.config := by
  simp only [serve, fetch]
  split <;> rfl

theorem scope_serve (s : Schema) (r : Registry) (q : Request) :
    (r.serve s q).1.scope s = { r.scope s with stored := (r.serve s q).1.models } := by
  simp [scope, config_serve]

/-- A pass for a request is made of steps, and adds the requested model last. -/
theorem passFor_answers (s : Schema) {r : Registry} {q : Request}
    (hnew : r.contains q.model = false) :
    Answered (r.scope s) q.demand q.model {} (r.passFor s q) [] := by
  apply resolve_answers
  exact {
    due := .demanded rfl
    new := by
      rw [Pass.knows_eq_false_iff]
      show q.model ∉ r.models.map (·.id)
      rw [← contains_iff, hnew]
      exact Bool.false_ne_true
    frames := rfl
    balanced := rfl
    name := rfl }

theorem occurs_serve {s : Schema} {r : Registry} (hr : Occurs (r.scope s) ⟨{}, []⟩)
    (q : Request) : Occurs ((r.serve s q).1.scope s) ⟨{}, []⟩ := by
  rw [scope_serve]
  rcases r.models_serve s q with ⟨-, hmodels⟩ | ⟨hnew, hmodels⟩
  · rw [hmodels]
    exact hr
  · rw [hmodels]
    exact (hr.steps (passFor_answers s hnew).steps).publish

theorem serveAll_cons (s : Schema) (r : Registry) (q : Request) (qs : List Request) :
    r.serveAll s (q :: qs) = (r.serve s q).1.serveAll s qs := rfl

theorem config_serveAll (s : Schema) (r : Registry) (qs : List Request) :
    (r.serveAll s qs).config = r.config := by
  induction qs generalizing r with
  | nil => rfl
  | cons q qs ih => rw [serveAll_cons, ih, config_serve]

theorem occurs_serveAll {s : Schema} {r : Registry} (hr : Occurs (r.scope s) ⟨{}, []⟩)
    (qs : List Request) : Occurs ((r.serveAll s qs).scope s) ⟨{}, []⟩ := by
  induction qs generalizing r with
  | nil => exact hr
  | cons q qs ih => exact ih (occurs_serve hr q)

theorem occurs_session (s : Schema) (c : Config) (qs : List Request) :
    Occurs ((serveAll s { config := c } qs).scope s) ⟨{}, []⟩ :=
  occurs_serveAll (r := { config := c }) (.start s c.singularTables) qs

/-- Users, each with several emails. -/
def emails : Schema :=
  let id : FieldDeclaration := { name := "Id", type := .scalar "i64" }
  { declarations :=
      [{ name := "User"
         fields := [id, { name := "Emails", type := .sequence (.model 1) }] },
       { name := "Email"
         fields := [id, { name := "UserId", type := .scalar "i64" }] }] }

end Registry

/-! ## Each model once -/

namespace Registry

theorem foldl_insertNew {models ms : List Model} (h : ((models ++ ms).map (·.id)).Nodup) :
    ms.foldl insertNew models = models ++ ms := by
  induction ms generalizing models with
  | nil => simp
  | cons m ms ih =>
    have hnew : models.any (·.id == m.id) = false := by
      rw [List.map_append, List.map_cons, List.nodup_append] at h
      rw [List.any_eq_false]
      intro x hx
      have hne : x.id ≠ m.id := h.2.2 _ (List.mem_map_of_mem hx) _ List.mem_cons_self
      simp [hne]
    rw [List.foldl_cons, show insertNew models m = models ++ [m] by simp [insertNew, hnew], ih]
    · simp
    · simpa using h

end Registry

namespace Resolution

theorem Step.nodup {s : Scope} {q : Demand} {floor : Nat} {a b : Stage} (h : Step s q floor a b)
    (ha : (a.pass.ids s).Nodup) : (b.pass.ids s).Nodup := by
  cases h with
  | enter hdue hnew hr =>
    rw [Pass.ids_enter, List.nodup_cons]
    exact ⟨Pass.knows_eq_false_iff.mp hnew, ha⟩
  | blank hdue hnew hr =>
    rw [(Pass.ids_finish_perm s _ _).nodup_iff, List.nodup_cons]
    exact ⟨Pass.knows_eq_false_iff.mp hnew, ha⟩
  | settle hf hd ht hfloor => rwa [Pass.ids_settle]
  | leave hf hfloor => rwa [(Pass.ids_leave_perm s hf _).nodup_iff]

theorem publish_stored_of_nodup {s : Scope} {p : Pass} (h : (p.ids s).Nodup) :
    (s.publish p).stored = p.marks.foldl Registry.markStored s.stored ++ p.finished := by
  apply Registry.foldl_insertNew
  rw [List.map_append, Registry.ids_foldl_markStored]
  exact List.perm_append_comm.nodup_iff.mp (List.nodup_append.mp h).2.1

theorem Occurs.nodup {s : Scope} {a : Stage} (h : Occurs s a) : (a.pass.ids s).Nodup := by
  induction h with
  | start schema singularTables => exact List.nodup_nil
  | step _ hstep ih => exact hstep.nodup ih
  | publish _ ih =>
    have hstored := publish_stored_of_nodup ih
    show ((Scope.publish _ _).stored.map (·.id)).Nodup
    rw [hstored, List.map_append, Registry.ids_foldl_markStored]
    exact List.perm_append_comm.nodup_iff.mp (List.nodup_append.mp ih).2.1

theorem Occurs.balanced {s : Scope} {a : Stage} (h : Occurs s a) : a.Balanced := by
  induction h with
  | start schema singularTables => rfl
  | step _ hstep ih => exact hstep.balanced ih
  | publish _ _ => rfl

/-- Publishing a pass of a session puts its models behind those that are stored. -/
theorem Occurs.publish_stored {s : Scope} {p : Pass} (h : Occurs s ⟨p, []⟩) :
    (s.publish p).stored = p.marks.foldl Registry.markStored s.stored ++ p.finished :=
  publish_stored_of_nodup h.nodup

theorem Occurs.frames_eq_nil {s : Scope} {p : Pass} (h : Occurs s ⟨p, []⟩) : p.frames = [] := by
  have hlen : p.frames.length = 0 := by simpa [Stage.Balanced, Stage.ids] using h.balanced.symm
  exact List.eq_nil_of_length_eq_zero hlen

end Resolution

theorem Registry.eq_of_id_eq {s : Schema} {r : Registry} (hr : Occurs (r.scope s) ⟨{}, []⟩)
    {a b : Model} (ha : a ∈ r.models) (hb : b ∈ r.models) (hid : a.id = b.id) : a = b := by
  have hnodup : (r.models.map (·.id)).Nodup := hr.nodup
  exact List.inj_on_of_nodup_map hnodup ha hb hid

end RecordMapping
