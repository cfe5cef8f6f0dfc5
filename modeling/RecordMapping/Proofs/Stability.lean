import RecordMapping.Proofs.Session

/-!
A model keeps its place.

Whoever holds a place of a registry holds a model.  Requests append models and mark fields of those
that are there, so the place stays the model's, and every later answer for the model is that place.
-/

namespace RecordMapping

open Resolution

namespace Registry

/-- Every filled place is kept, and the model at it is changed by marks only. -/
def Extends (r r' : Registry) : Prop :=
  ∀ (i : Nat) (m : Model), r.models[i]? = some m →
    ∃ n, r'.models[i]? = some n ∧ m.MarkedInto n

namespace Extends

theorem of_models_eq {r r' : Registry} (h : r'.models = r.models) : r.Extends r' := by
  intro i m hm
  rw [h]
  exact ⟨m, hm, Model.MarkedInto.refl m⟩

theorem trans {r r' r'' : Registry} (h : r.Extends r') (h' : r'.Extends r'') :
    r.Extends r'' := by
  intro i m hm
  obtain ⟨n, hn, hmn⟩ := h i m hm
  obtain ⟨o, ho, hno⟩ := h' i n hn
  exact ⟨o, ho, hmn.trans hno⟩

/-- A model is found at the same place, since the places before it keep the models that they had. -/
theorem position? {r r' : Registry} (h : r.Extends r') {id : ModelId} {i : Nat}
    (hi : r.position? id = some i) : r'.position? id = some i := by
  have hid : ∀ (j : Nat) (m : Model), r.models[j]? = some m →
      ∃ n, r'.models[j]? = some n ∧ n.id = m.id := by
    intro j m hm
    obtain ⟨n, hn, hmn⟩ := h j m hm
    exact ⟨n, hn, hmn.id_eq⟩
  unfold Registry.position? at hi ⊢
  rw [List.findIdx?_eq_some_iff_getElem] at hi ⊢
  obtain ⟨hlt, hat, hbefore⟩ := hi
  obtain ⟨n, hn, hnid⟩ := hid i _ (List.getElem?_eq_getElem hlt)
  obtain ⟨hlt', rfl⟩ := List.getElem?_eq_some_iff.mp hn
  refine ⟨hlt', by rw [hnid]; exact hat, ?_⟩
  intro j hj
  obtain ⟨o, ho, hoid⟩ := hid j _ (List.getElem?_eq_getElem (Nat.lt_trans hj hlt))
  obtain ⟨hjlt, rfl⟩ := List.getElem?_eq_some_iff.mp ho
  rw [hoid]
  exact hbefore j hj

end Extends

/-! ## Requests extend the registry -/

section

variable {s : Schema} {r : Registry} (hr : Occurs (r.scope s) ⟨{}, []⟩)

include hr

/-- After a pass, the models that were there come first, with its marks, and those that it finished
come behind them. -/
theorem models_serve_of_new {q : Request} (hnew : r.contains q.model = false) :
    (r.serve s q).1.models =
      (r.passFor s q).marks.foldl markStored r.models ++ (r.passFor s q).finished := by
  rcases r.models_serve s q with ⟨hold, -⟩ | ⟨-, hmodels⟩
  · rw [hold] at hnew
    contradiction
  · rw [hmodels]
    exact (hr.steps (passFor_answers s hnew).steps).publish_stored

theorem extends_serve (q : Request) : r.Extends (r.serve s q).1 := by
  rcases r.models_serve s q with ⟨-, hmodels⟩ | ⟨hnew, -⟩
  · exact Extends.of_models_eq hmodels
  · intro i m hm
    obtain ⟨n, hn, hmn⟩ := markedInto_of_foldl_markStored (r.passFor s q).marks hm
    obtain ⟨hlt, -⟩ := List.getElem?_eq_some_iff.mp hn
    refine ⟨n, ?_, hmn⟩
    rw [models_serve_of_new hr hnew, List.getElem?_append_left hlt, hn]

theorem extends_serveAll (qs : List Request) : r.Extends (r.serveAll s qs) := by
  induction qs generalizing r with
  | nil => exact Extends.of_models_eq rfl
  | cons q qs ih => exact (extends_serve hr q).trans (ih (occurs_serve hr q))

/-- The place that a request finds is the model's place in the registry that it leaves behind. -/
theorem position?_serve (q : Request) :
    (r.serve s q).1.position? q.model = some (r.fetch s q.model q.instance?).2 := by
  cases hpos : r.position? q.model with
  | some i =>
    simp only [serve, fetch, hpos]
    exact hpos
  | none =>
    have hnew : r.contains q.model = false := contains_eq_false_iff.mpr hpos
    obtain ⟨before, m, hfin, hid⟩ := (passFor_answers s hnew).last
    have hmem : (r.serve s q).1.models.any (·.id == q.model) = true := by
      rw [models_serve_of_new hr hnew, hfin, List.any_eq_true]
      exact ⟨m, by simp, by simp [hid]⟩
    have hplace : (r.fetch s q.model q.instance?).2 =
        (r.serve s q).1.models.findIdx (·.id == q.model) := by
      simp only [serve, fetch, hpos]
    rw [position?, List.findIdx?_eq_guard_findIdx_lt, hplace]
    rw [List.any_eq_true, ← List.findIdx_lt_length] at hmem
    simp [Option.guard, hmem]

end

/-! ## Answers -/

theorem place_of_serve {s : Schema} {r : Registry} {q : Request} {place : Nat}
    (h : (r.serve s q).2 = .model place) : place = (r.fetch s q.model q.instance?).2 := by
  cases q with
  | get id => exact (Answer.model.inj h).symm
  | getFor id instance? => exact (Answer.model.inj h).symm
  | tryGet id =>
    simp only [serve, answer] at h
    split at h
    · contradiction
    · exact (Answer.model.inj h).symm
  | tableName id => contradiction

/-- The model `id` stands at `place`, as it was in `m` apart from marks, none of which is taken back by
requests that follow.  Whoever asks for it is told this place, whatever table name a record brings
along.  A strict registry may refuse, but names no other place. -/
structure Keeps (s : Schema) (r : Registry) (id : ModelId) (place : Nat) (m : Model) : Prop where
  content : ∃ n, r.models[place]? = some n ∧ m.MarkedInto n
  onward : ∀ (more : List Request) (n : Model), r.models[place]? = some n →
    ∃ n', (r.serveAll s more).models[place]? = some n' ∧ n.MarkedInto n'
  found : r.position? id = some place
  get : (r.serve s (.get id)).2 = .model place
  getFor : ∀ instance?, (r.serve s (.getFor id instance?)).2 = .model place
  tryGet : ∀ place', (r.serve s (.tryGet id)).2 = .model place' → place' = place

theorem keeps_of_position? {s : Schema} {r : Registry} (hr : Occurs (r.scope s) ⟨{}, []⟩)
    {id : ModelId} {place : Nat} {m : Model} (hpos : r.position? id = some place)
    (hm : ∃ n, r.models[place]? = some n ∧ m.MarkedInto n) : r.Keeps s id place m := by
  have hfetch : ∀ q : Request, q.model = id → (r.fetch s q.model q.instance?).2 = place := by
    intro q hq
    have hplace := (extends_serve hr q).position? hpos
    rw [← hq, position?_serve hr q] at hplace
    exact Option.some.inj hplace
  refine ⟨hm, ?_, hpos, ?_, ?_, ?_⟩
  · intro more n hn
    exact extends_serveAll hr more place n hn
  · exact congrArg Answer.model (hfetch (.get id) rfl)
  · intro instance?
    exact congrArg Answer.model (hfetch (.getFor id instance?) rfl)
  · intro place' h
    rw [place_of_serve h]
    exact hfetch (.tryGet id) rfl

/-- Whatever session has gone before, the place that a request answers holds the model that was asked
for, and every later session keeps it there. -/
theorem serve_keeps (s : Schema) (c : Config) (qs : List Request) (q : Request) (place : Nat)
    (h : ((serveAll s { config := c } qs).serve s q).2 = .model place) :
    ∃ m, ((serveAll s { config := c } qs).serve s q).1.models[place]? = some m ∧
      m.id = q.model ∧
      ∀ later : List Request,
        (serveAll s ((serveAll s { config := c } qs).serve s q).1 later).Keeps s q.model place m := by
  have hoccurs := occurs_session s c qs
  generalize serveAll s { config := c } qs = r at h hoccurs
  have hpos : (r.serve s q).1.position? q.model = some place := by
    rw [position?_serve hoccurs, place_of_serve h]
  obtain ⟨m, hm, hid⟩ := getElem?_of_position? hpos
  refine ⟨m, hm, hid, ?_⟩
  intro later
  have hserved := occurs_serve hoccurs q
  have hextends := extends_serveAll hserved later
  exact keeps_of_position? (occurs_serveAll hserved later) (hextends.position? hpos)
    (hextends _ _ hm)

/-- Users keep the place behind their emails. -/
theorem serve_keeps_users :
    ((serveAll emails {} [.tableName 1]).serve emails (.get 0)).2 = .model 1 ∧
      ∃ m, ((serveAll emails {} [.tableName 1]).serve emails (.get 0)).1.models[1]? = some m ∧
        m.id = 0 ∧ ∀ later : List Request,
          (serveAll emails ((serveAll emails {} [.tableName 1]).serve emails (.get 0)).1
            later).Keeps emails 0 1 m :=
  ⟨by decide +kernel, serve_keeps emails {} [.tableName 1] (.get 0) 1 (by decide +kernel)⟩

end Registry
end RecordMapping
