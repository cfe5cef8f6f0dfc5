import RecordMapping.Proofs.Resolution.Runs
import RecordMapping.Proofs.Session

/-!
Sessions come to an end and resolve each model once.

`Registry.Session` is what a registry does, with the bare recursion of `Runs` in the place of
`resolve`.  Every session has exactly one run, which is the one that is served.  Of the schema's
models, fewer are unknown at a call than at the one that it was made by, so that no chain of
references goes on for ever.
-/

namespace RecordMapping

open Resolution

namespace Schema

/-- The more models are open, the fewer are not. -/
theorem length_unopened_mono (s : Schema) {opened opened' : List ModelId} (h : opened ⊆ opened') :
    (s.unopened opened').length ≤ (s.unopened opened).length := by
  have hsublist : (s.unopened opened').Sublist (s.unopened opened) := by
    apply List.monotone_filter_right
    intro id hid
    simp only [decide_eq_true_eq] at hid ⊢
    exact mt (@h id) hid
  exact hsublist.length_le

end Schema

namespace Registry

/-- A list of requests leads from one registry to another one, and resolves models by these calls. -/
inductive Session (s : Schema) : Registry → List Request → List Call → Registry → Prop
  | nil {r : Registry} : Session s r [] [] r
  | hit {r r' : Registry} {q : Request} {qs : List Request} {calls : List Call}
      (hq : r.contains q.model = true) (hrest : Session s { r with hits := r.hits + 1 } qs calls r') :
      Session s r (q :: qs) calls r'
  | miss {r r' : Registry} {q : Request} {qs : List Request} {p : Pass} {calls calls' : List Call}
      (hq : r.contains q.model = false)
      (hruns : Runs (r.scope s) (.model q.model q.instance?) {} calls p)
      (hrest : Session s ({ r with misses := r.misses + 1 }.publish p) qs calls' r') :
      Session s r (q :: qs) (calls ++ calls') r'

theorem Session.unique {s : Schema} {r r' r'' : Registry} {qs : List Request}
    {calls calls' : List Call} (h : Session s r qs calls r') (h' : Session s r qs calls' r'') :
    calls' = calls ∧ r'' = r' := by
  induction h generalizing calls' r'' with
  | nil =>
    cases h'
    exact ⟨rfl, rfl⟩
  | hit hq _ ih =>
    cases h' with
    | hit _ hrest => exact ih hrest
    | miss hq' => exact absurd (hq.symm.trans hq') (by decide)
  | miss hq hruns _ ih =>
    cases h' with
    | hit hq' => exact absurd (hq'.symm.trans hq) (by decide)
    | miss _ hruns' hrest =>
      obtain ⟨rfl, rfl⟩ := hruns.unique hruns'
      obtain ⟨rfl, rfl⟩ := ih hrest
      exact ⟨rfl, rfl⟩

theorem exists_session (s : Schema) (r : Registry) (qs : List Request) :
    ∃ calls, Session s r qs calls (r.serveAll s qs) := by
  induction qs generalizing r with
  | nil => exact ⟨[], .nil⟩
  | cons q qs ih =>
    obtain ⟨calls', hrest⟩ := ih (r.serve s q).1
    rw [serveAll_cons]
    cases hq : r.contains q.model with
    | true =>
      rw [serve_of_contains s hq] at hrest ⊢
      exact ⟨calls', .hit hq hrest⟩
    | false =>
      have hnew : q.model ∉ r.models.map (·.id) :=
        position?_eq_none_iff.mp (contains_eq_false_iff.mp hq)
      obtain ⟨calls, hruns⟩ :=
        exists_runs (r.scope s) [] q.model q.instance? {} rfl hnew
      rw [serve_of_new s hq] at hrest ⊢
      exact ⟨calls ++ calls', .miss hq hruns hrest⟩

/-- Publishing a pass makes the models stored that it called for. -/
theorem ids_publish {s : Schema} {r : Registry} {p : Pass} {q : Request} {calls : List Call}
    (hr : (r.models.map (·.id)).Nodup) (hq : q.model ∉ r.models.map (·.id))
    (h : Runs (r.scope s) (.model q.model q.instance?) {} calls p) :
    ((r.publish p).models.map (·.id)).Perm (calls.map (·.model) ++ r.models.map (·.id)) := by
  have haccounted := h.accounted hq
  have hnodup : (p.ids (r.scope s)).Nodup := haccounted.ids.nodup_iff.mpr (haccounted.fresh.nodup hr)
  have hmodels : (r.publish p).models = p.marks.foldl markStored r.models ++ p.finished :=
    publish_stored_of_nodup hnodup
  rw [hmodels, List.map_append, ids_foldl_markStored]
  exact ((h.finished_perm hq).append_left _).trans List.perm_append_comm

/-- Each call of a session is for a model that is not known, and the models that are called for are
those that the session stores. -/
theorem Session.fresh {s : Schema} {r r' : Registry} {qs : List Request} {calls : List Call}
    (h : Session s r qs calls r') (hr : (r.models.map (·.id)).Nodup) :
    Fresh (r.models.map (·.id)) calls ∧
      (r'.models.map (·.id)).Perm (calls.map (·.model) ++ r.models.map (·.id)) ∧
      ∀ c ∈ calls, ∀ t ∈ c.opened, s.isRecord t = true := by
  induction h with
  | nil => exact ⟨.nil, .refl _, by simp⟩
  | hit _ _ ih => exact ih hr
  | @miss r r' q qs p calls calls' hq hruns _ ih =>
    have hnew := position?_eq_none_iff.mp (contains_eq_false_iff.mp hq)
    have haccounted := hruns.accounted hnew
    -- What the pass called for is stored when the requests that follow are served.
    have hstored := ids_publish hr hnew hruns
    have hnodup := hstored.nodup_iff.mpr (haccounted.fresh.nodup hr)
    obtain ⟨hfresh, hids, hrecords⟩ := ih hnodup
    refine ⟨haccounted.fresh.append (hfresh.perm hstored), ?_, ?_⟩
    · rw [List.map_append]
      refine (hids.trans (hstored.append_left _)).trans ?_
      rw [← List.append_assoc]
      exact List.perm_append_comm.append_right _
    · intro c hc
      rcases List.mem_append.mp hc with hc | hc
      · exact haccounted.opened (by simp) c hc
      · exact hrecords c hc

/-- Every model is resolved once at most, and resolving it comes to an end. -/
structure Accounts (s : Schema) (c : Config) (qs : List Request) (calls : List Call) : Prop where
  /-- No call is for a model that is open, finished or stored. -/
  new : ∀ x ∈ calls, x.model ∉ x.opened ∧ x.model ∉ x.finished ∧ x.model ∉ x.stored
  /-- While a model is open, calls are made with fewer models unknown than when it was called for. -/
  descends : ∀ x ∈ calls, ∀ y ∈ calls, x.model ∈ y.opened →
    (s.unopened y.known).length < (s.unopened x.known).length
  nodup : (calls.map (·.model)).Nodup
  stored : (calls.map (·.model)).Perm ((serveAll s { config := c } qs).models.map (·.id))

/-- Every session has exactly one run of the bare recursion, in which all calls are for new models.
What a request would resolve next is new as well, and no model of it is finished twice. -/
theorem calls_session (s : Schema) (c : Config) (qs : List Request) :
    ∃ calls,
      (∀ calls' r, Session s { config := c } qs calls' r ↔
        calls' = calls ∧ r = serveAll s { config := c } qs) ∧
      Accounts s c qs calls ∧
      ∀ q, (serveAll s { config := c } qs).contains q.model = false →
        (((serveAll s { config := c } qs).passFor s q).finished.map (·.id) ++
          (serveAll s { config := c } qs).models.map (·.id)).Nodup := by
  obtain ⟨calls, hsession⟩ := exists_session s { config := c } qs
  obtain ⟨hfresh, hids, hrecords⟩ := hsession.fresh List.nodup_nil
  have hoccurs : Occurs ((serveAll s { config := c } qs).scope s) ⟨{}, []⟩ := occurs_session s c qs
  refine ⟨calls, ?_, ?_, ?_⟩
  · intro calls' r
    constructor
    · exact hsession.unique
    · rintro ⟨rfl, rfl⟩
      exact hsession
  · rw [List.map_nil, List.append_nil] at hids
    refine ⟨?_, ?_, hids.symm.nodup_iff.mpr hoccurs.nodup, hids.symm⟩
    · intro x hx
      have hnew := hfresh.model_notMem hx
      simpa only [Call.known, List.mem_append, not_or] using hnew
    · intro x hx y hy hopen
      have hknown : x.model ∈ y.known := List.mem_append_left _ hopen
      have hsubset : x.model :: x.known ⊆ y.known :=
        List.cons_subset.mpr ⟨hknown, hfresh.known_subset hx hy hknown⟩
      calc (s.unopened y.known).length
        _ ≤ (s.unopened (x.model :: x.known)).length := s.length_unopened_mono hsubset
        _ < (s.unopened x.known).length :=
          Schema.length_unopened_lt (hrecords y hy _ hopen) (hfresh.model_notMem hx)
  · intro q hq
    exact (List.nodup_append.mp (hoccurs.steps (passFor_answers s hq).steps).nodup).2.1

end Registry
end RecordMapping
