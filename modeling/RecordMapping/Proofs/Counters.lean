import RecordMapping.Proofs.Stability

/-!
What a registry counts.

Every request is either a hit or a miss, whatever it asks for and whatever is answered.  It is a
miss if its model is not there when it is made.  The models that a pass looks at are not asked for,
and count as neither.  A pass adds to the number of resolved models what it adds to the registry,
since all that it finishes is new.
-/

namespace RecordMapping

open Resolution

namespace Registry

/-! ## Single requests -/

theorem hits_serve (s : Schema) (r : Registry) (q : Request) :
    (r.serve s q).1.hits = r.hits + if r.contains q.model then 1 else 0 := by
  cases hq : r.contains q.model with
  | true => rw [serve_of_contains s hq, if_pos rfl]
  | false => rw [serve_of_new s hq, if_neg Bool.false_ne_true]; rfl

theorem misses_serve (s : Schema) (r : Registry) (q : Request) :
    (r.serve s q).1.misses = r.misses + if r.contains q.model then 0 else 1 := by
  cases hq : r.contains q.model with
  | true => rw [serve_of_contains s hq, if_pos rfl]; rfl
  | false => rw [serve_of_new s hq, if_neg Bool.false_ne_true]; rfl

/-- The number of resolved models grows as the registry does. -/
theorem resolved_serve {s : Schema} {r : Registry} (hr : Occurs (r.scope s) ⟨{}, []⟩) (q : Request)
    (h : r.resolved = r.size) : (r.serve s q).1.resolved = (r.serve s q).1.size := by
  cases hq : r.contains q.model with
  | true =>
    rw [serve_of_contains s hq]
    exact h
  | false =>
    have hresolved : (r.serve s q).1.resolved =
        r.resolved + (r.passFor s q).finished.length := by
      rw [serve_of_new s hq]
      rfl
    rw [size, models_serve_of_new hr hq, List.length_append, length_foldl_markStored, hresolved, h,
      size]

/-! ## Sessions -/

theorem hits_add_misses_serveAll (s : Schema) (r : Registry) (qs : List Request) :
    (r.serveAll s qs).hits + (r.serveAll s qs).misses = r.hits + r.misses + qs.length := by
  induction qs generalizing r with
  | nil => rfl
  | cons q qs ih =>
    rw [serveAll_cons, ih, hits_serve, misses_serve, List.length_cons]
    split <;> omega

/-- A request is made of the registry that the requests before it left behind. -/
theorem misses_serveAll (s : Schema) (r : Registry) (qs : List Request) :
    (r.serveAll s qs).misses = r.misses +
      qs.zipIdx.countP fun (q, i) => !(r.serveAll s (qs.take i)).contains q.model := by
  induction qs generalizing r with
  | nil => rfl
  | cons q qs ih =>
    have hfirst : r.serveAll s ((q :: qs).take 0) = r := rfl
    have hrest : ∀ i, r.serveAll s ((q :: qs).take (i + 1)) =
        (r.serve s q).1.serveAll s (qs.take i) := fun i => serveAll_cons s r q (qs.take i)
    rw [serveAll_cons, ih, misses_serve, List.zipIdx_cons', List.countP_cons, List.countP_map]
    simp only [Function.comp_def, Prod.map_fst, Prod.map_snd, id_eq, hfirst, hrest,
      Bool.not_eq_true']
    cases r.contains q.model with
    | true => simp
    | false => simp; omega

theorem resolved_serveAll {s : Schema} {r : Registry} (hr : Occurs (r.scope s) ⟨{}, []⟩)
    (qs : List Request) (h : r.resolved = r.size) :
    (r.serveAll s qs).resolved = (r.serveAll s qs).size := by
  induction qs generalizing r with
  | nil => exact h
  | cons q qs ih => exact ih (occurs_serve hr q) (resolved_serve hr q h)

/-- After any session, each request has counted once, and as a miss if and only if its model was not
there.  As many models have been resolved as are stored, each of them once. -/
theorem counters_session (s : Schema) (c : Config) (qs : List Request) :
    let r := serveAll s { config := c } qs
    r.hits + r.misses = qs.length ∧
    r.misses = (qs.zipIdx.countP fun (q, i) =>
      !(serveAll s { config := c } (qs.take i)).contains q.model) ∧
    r.resolved = r.size ∧ (r.models.map (·.id)).Nodup := by
  intro r
  have hoccurs : Occurs (r.scope s) ⟨{}, []⟩ := occurs_session s c qs
  refine ⟨?_, ?_, ?_, hoccurs.nodup⟩
  · have htotal := hits_add_misses_serveAll s { config := c } qs
    rwa [Nat.zero_add, Nat.zero_add] at htotal
  · have hmisses := misses_serveAll s { config := c } qs
    rwa [Nat.zero_add] at hmisses
  · exact resolved_serveAll (r := { config := c }) (.start s c.singularTables) qs rfl

/-- Two hits and a miss: the emails are found by the pass for the users, which asks for nothing. -/
example : let r := serveAll emails {} [.get 0, .tableName 1, .tryGet 0]
    (r.hits, r.misses, r.resolved) = (2, 1, 2) := by decide +kernel

end Registry
end RecordMapping
