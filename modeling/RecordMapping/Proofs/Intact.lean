import RecordMapping.Proofs.Resolution.PlacedRuns

/-!
Places that stay good.

A model is resolved in the middle of the resolution of others, which hold depths and places across it.
From every stage that can occur, the resolution of a model that is not known gives the pass back with the
same models open, the finished ones where they were, and the new model at the end.  No place is stale
then, and a session in which every access is by place runs like any other.
-/

namespace RecordMapping

open Resolution

namespace Resolution

/-- The pass after the resolution of a model: what was there is still there, every mark is on a field
that exists, and the model is the last of those that are finished. -/
structure Intact (s : Scope) (id : ModelId) (p p' : Pass) (place : Nat) : Prop where
  grows : p.GrowsInto p'
  named : p'.NamesMarks s
  last : p'.finished.length = place + 1
  requested : ∃ m, p'.finished[place]? = some m ∧ m.id = id ∧ m.isRecord = s.schema.isRecord id

theorem Runs.intact {s : Scope} {id : ModelId} {instance? : Option String} {p p' : Pass}
    {calls : List Call} (h : Runs s (.model id instance?) p calls p') (hp : p.NamesMarks s) :
    Intact s id p p' (p'.finished.length - 1) := by
  obtain ⟨before, m, hfinished, hid, hrecord⟩ := h.last
  refine ⟨h.grows, h.namesMarks hp, ?_, m, ?_, hid, hrecord⟩
  · simp [hfinished]
  · simp [hfinished]

theorem resolve?_eq {s : Scope} {p : Pass} {id : ModelId} (instance? : Option String)
    (hnodup : (p.ids s).Nodup) (hnew : id ∉ p.ids s) (hp : p.NamesMarks s) :
    ∃ place, resolve? s (p.frames.map (·.id)) id instance? p =
        some (resolve s (p.frames.map (·.id)) id instance? p, place) ∧
      Intact s id p (resolve s (p.frames.map (·.id)) id instance? p) place := by
  obtain ⟨calls, hruns⟩ := exists_runs s _ id instance? p rfl hnew
  exact ⟨_, hruns.checks hnodup hnew, hruns.intact hp⟩

end Resolution

/-! ## Sessions by places -/

/-- Take out an element, into whose place the last one moves. -/
def swapRemove? {α : Type} (xs : List α) (i : Nat) : Option (α × List α) := do
  let x ← xs[i]?
  let last ← xs.getLast?
  some (x, (xs.set i last).dropLast)

theorem exists_swapRemove? {α : Type} {xs : List α} {i : Nat} (hlast : xs.length = i + 1) :
    ∃ x others, swapRemove? xs i = some (x, others) ∧ others ++ [x] = xs := by
  rcases List.eq_nil_or_concat xs with rfl | ⟨others, x, rfl⟩
  · contradiction
  · obtain rfl : others.length = i := by simpa using hlast
    exact ⟨x, others, by simp [swapRemove?], List.concat_eq_append.symm⟩

example : swapRemove? [1, 2, 3] 0 = some (1, [3, 2]) := by decide

namespace Registry

/-- The pass hands over the requested model last, wherever it was. -/
def fetch? (s : Schema) (r : Registry) (id : ModelId) (instance? : Option String) :
    Option (Registry × Nat) :=
  match r.position? id with
  | some i => some ({ r with hits := r.hits + 1 }, i)
  | none => do
    let r := { r with misses := r.misses + 1 }
    let (p, root) ← resolve? (r.scope s) [] id instance? {}
    let (m, others) ← swapRemove? p.finished root
    let r := r.publish { p with finished := others ++ [m] }
    some (r, r.models.findIdx (·.id == id))

def serve? (s : Schema) (r : Registry) (q : Request) : Option (Registry × Answer) :=
  (r.fetch? s q.model q.instance?).map fun (r, place) => (r, r.answer s place q)

def serveAll? (s : Schema) (r : Registry) (qs : List Request) : Option Registry :=
  qs.foldlM (fun r q => (r.serve? s q).map (·.1)) r

variable {s : Schema} {r : Registry}

theorem fetch?_eq (hr : Occurs (r.scope s) ⟨{}, []⟩) (id : ModelId) (instance? : Option String) :
    r.fetch? s id instance? = some (r.fetch s id instance?) := by
  cases hplace : r.position? id with
  | some i => simp only [fetch?, fetch, hplace]
  | none =>
    have hnew : id ∉ Pass.ids (r.scope s) {} := position?_eq_none_iff.mp hplace
    obtain ⟨place, hresolve, hintact⟩ :
        ∃ place, resolve? (r.scope s) [] id instance? {} =
            some (run (r.scope s) id instance?, place) ∧
          Intact (r.scope s) id {} (run (r.scope s) id instance?) place :=
      resolve?_eq instance? hr.nodup hnew hr.namesMarks
    obtain ⟨m, others, hremove, hfinished⟩ := exists_swapRemove? hintact.last
    have hscope : scope { r with misses := r.misses + 1 } s = r.scope s := rfl
    simp only [fetch?, fetch, hplace, hscope, hresolve, hremove, hfinished, Option.bind_eq_bind,
      Option.bind_some]

theorem serve?_eq (hr : Occurs (r.scope s) ⟨{}, []⟩) (q : Request) :
    r.serve? s q = some (r.serve s q) := by
  rw [serve?, fetch?_eq hr, Option.map_some]
  rfl

theorem serveAll?_eq (hr : Occurs (r.scope s) ⟨{}, []⟩) (qs : List Request) :
    r.serveAll? s qs = some (r.serveAll s qs) := by
  induction qs generalizing r with
  | nil => rfl
  | cons q qs ih =>
    rw [serveAll?, List.foldlM_cons, serve?_eq hr, serveAll_cons]
    exact ih (occurs_serve hr q)

/-- From every stage of a session, a model that is not known is resolved by places as it is resolved at
all, and the pass is left intact.  So no session fails. -/
theorem intact_session :
    (∀ (s : Scope) (a : Stage) (id : ModelId) (instance? : Option String), Occurs s a →
      a.pass.knows s id = false →
        ∃ place, resolve? s (a.pass.frames.map (·.id)) id instance? a.pass =
            some (resolve s (a.pass.frames.map (·.id)) id instance? a.pass, place) ∧
          Intact s id a.pass (resolve s (a.pass.frames.map (·.id)) id instance? a.pass) place) ∧
    ∀ (s : Schema) (c : Config) (qs : List Request),
      serveAll? s { config := c } qs = some (serveAll s { config := c } qs) := by
  refine ⟨?_, fun s c qs => serveAll?_eq (r := { config := c }) (.start s c.singularTables) qs⟩
  intro s a id instance? ha hnew
  exact resolve?_eq instance? ha.nodup (Pass.knows_eq_false_iff.mp hnew) ha.namesMarks

def emailsScope : Scope := { schema := emails, singularTables := false, stored := [] }

/-- Users are open, and their first field is settled. -/
def usersOpen : Pass := (Pass.enter emailsScope {} 0).settle emailsScope 0

theorem occurs_usersOpen : Occurs emailsScope ⟨usersOpen, [1]⟩ := by
  have hstart : Occurs emailsScope ⟨{}, []⟩ := .start emails false
  have henter : Step emailsScope { model := 0, instance? := none } 0 ⟨{}, []⟩
      ⟨Pass.enter emailsScope {} 0, [0]⟩ := .enter (.demanded rfl) rfl rfl
  have hsettle : Step emailsScope { model := 0, instance? := none } 0
      ⟨Pass.enter emailsScope {} 0, [0]⟩ ⟨usersOpen, [1]⟩ :=
    .settle rfl rfl (by rintro t ⟨⟩) (Nat.zero_le _)
  exact (hstart.step henter).step hsettle

/-- Emails are resolved when users are open. -/
theorem intact_session_emails :
    usersOpen.knows emailsScope 1 = false ∧
      ∃ p place, resolve? emailsScope (usersOpen.frames.map (·.id)) 1 none usersOpen =
          some (p, place) ∧ Intact emailsScope 1 usersOpen p place := by
  have hnew : usersOpen.knows emailsScope 1 = false := by decide +kernel
  obtain ⟨place, hresolve, hintact⟩ :=
    intact_session.1 emailsScope ⟨usersOpen, [1]⟩ 1 none occurs_usersOpen hnew
  exact ⟨hnew, _, place, hresolve, hintact⟩

end Registry
end RecordMapping
