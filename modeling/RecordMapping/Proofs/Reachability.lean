import RecordMapping.Proofs.References
import RecordMapping.Proofs.Stability

/-!
What a registry holds.

A session stores exactly the models that can be reached from those it asks for.  Nothing else is
stored because a pass only enters what the next slot refers to.  Nothing is missing because a slot is
settled only after its model is known, so that a finished model refers to known models alone.  A cycle
ends at a frame, and a frame is known.
-/

namespace RecordMapping

open Resolution

/-! ## References between models -/

/-- A record refers to the models that its exported fields hold, ignored fields apart. -/
def Schema.Refers (s : Schema) (a b : ModelId) : Prop :=
  s.isRecord a = true ∧
    ∃ d ∈ s.exported a, d.annotation.isExcluded = false ∧ d.type.Holds b

/-- A model is reached over any number of references. -/
abbrev Schema.Reaches (s : Schema) : ModelId → ModelId → Prop := Relation.ReflTransGen s.Refers

theorem Schema.refers_of_target? {s : Schema} {a t : ModelId} {d : FieldDeclaration} {k : Nat}
    (hr : s.isRecord a = true) (hd : (s.exported a)[k]? = some d) (ht : d.target? = some t) :
    s.Refers a t :=
  ⟨hr, d, List.mem_of_getElem? hd, FieldDeclaration.target?_eq_some_iff.mp ht⟩

namespace Resolution

/-! ## Nothing but what is reached -/

/-- The models of a pass, with those it has finished, are reached from the demanded one, and the open
ones are records. -/
structure Reached (s : Scope) (q : Demand) (a : Stage) : Prop where
  opened : ∀ id ∈ a.ids, s.schema.isRecord id = true ∧ s.schema.Reaches q.model id
  finished : ∀ m ∈ a.pass.finished, s.schema.Reaches q.model m.id

theorem Due.reaches {s : Scope} {q : Demand} {a : Stage} {id : ModelId} (h : Due s q a id)
    (ha : Reached s q a) : s.schema.Reaches q.model id := by
  cases h with
  | demanded hf => exact .refl
  | @referred p frame rest k ks d id hf hd ht =>
    obtain ⟨hr, hreach⟩ := ha.opened frame.id (by simp [Stage.ids, hf])
    exact hreach.tail (Schema.refers_of_target? hr hd ht)

theorem Step.reached {s : Scope} {q : Demand} {floor : Nat} {a b : Stage}
    (h : Step s q floor a b) (ha : Reached s q a) : Reached s q b := by
  cases h with
  | @enter p ks id hdue hnew hr =>
    refine ⟨?_, ha.finished⟩
    intro x hx
    rcases List.mem_cons.mp hx with rfl | hx
    · exact ⟨hr, hdue.reaches ha⟩
    · exact ha.opened x hx
  | @blank p ks id hdue hnew hr =>
    refine ⟨ha.opened, ?_⟩
    intro m hm
    rcases List.mem_append.mp hm with hm | hm
    · exact ha.finished m hm
    · rw [List.mem_singleton.mp hm]
      exact hdue.reaches ha
  | @settle p frame rest k ks d hf hd ht hfloor =>
    constructor
    · unfold Stage.ids
      rw [Pass.frames_ids_settle]
      exact ha.opened
    · intro m hm
      have hid : m.id ∈ (p.settle s k).finished.map (·.id) := List.mem_map_of_mem hm
      rw [Pass.finished_ids_settle] at hid
      obtain ⟨x, hx, hxid⟩ := List.mem_map.mp hid
      rw [← hxid]
      exact ha.finished x hx
  | @leave p frame rest ks hf hfloor =>
    have hids : ∀ id ∈ rest.map (·.id), id ∈ Stage.ids ⟨p, 0 :: ks⟩ := by
      intro id hid
      simp only [Stage.ids, hf, List.map_cons]
      exact List.mem_cons_of_mem _ hid
    rw [Pass.leave_of_frames hf]
    refine ⟨fun id hid => ha.opened id (hids id hid), ?_⟩
    intro m hm
    rcases List.mem_append.mp hm with hm | hm
    · exact ha.finished m hm
    · rw [List.mem_singleton.mp hm]
      exact (ha.opened frame.id (by simp [Stage.ids, hf])).2

theorem Steps.reached {s : Scope} {q : Demand} {floor : Nat} {a b : Stage}
    (h : Steps s q floor a b) (ha : Reached s q a) : Reached s q b := by
  induction h with
  | refl => exact ha
  | tail _ hstep ih => exact hstep.reached ih

/-! ## All that is reached -/

/-- The first `k` fields of the model refer to models that are known. -/
def ClosedUpTo (s : Scope) (p : Pass) (id : ModelId) (k : Nat) : Prop :=
  ∀ i < k, ∀ d, (s.schema.exported id)[i]? = some d → ∀ t, d.target? = some t → t ∈ p.ids s

theorem ClosedUpTo.mono {s : Scope} {p p' : Pass} {id : ModelId} {k : Nat}
    (h : ClosedUpTo s p id k) (hp : ∀ t ∈ p.ids s, t ∈ p'.ids s) : ClosedUpTo s p' id k :=
  fun i hi d hd t ht => hp t (h i hi d hd t ht)

/-- An open model refers to known models as far as it is settled, any other one throughout. -/
structure Closed (s : Scope) (a : Stage) : Prop where
  opened : List.Forall₂ (ClosedUpTo s a.pass) a.ids a.settled
  done : ∀ id ∈ a.pass.finished.map (·.id) ++ s.stored.map (·.id),
    s.schema.isRecord id = true → ClosedUpTo s a.pass id (s.schema.exported id).length

theorem Step.closed {s : Scope} {q : Demand} {floor : Nat} {a b : Stage}
    (h : Step s q floor a b) (ha : Closed s a) : Closed s b := by
  have hknown : ∀ t ∈ a.pass.ids s, t ∈ b.pass.ids s := fun t ht => h.known ht
  have hopened := ha.opened.imp fun _ _ hc => ClosedUpTo.mono hc hknown
  have hdone := fun id hid hr => (ha.done id hid hr).mono hknown
  cases h with
  | enter hdue hnew hr =>
    refine ⟨.cons ?_ hopened, hdone⟩
    intro i hi
    exact absurd hi (Nat.not_lt_zero i)
  | @blank p ks id hdue hnew hr =>
    refine ⟨hopened, ?_⟩
    intro x hx hrx
    simp only [Pass.finish, List.map_append, List.mem_append] at hx
    rcases hx with (hx | hx) | hx
    · exact hdone x (List.mem_append_left _ hx) hrx
    · have hxid : x = id := by simpa [Model.blank] using hx
      rw [hxid, hr] at hrx
      contradiction
    · exact hdone x (List.mem_append_right _ hx) hrx
  | @settle p frame rest k ks d hf hd ht hfloor =>
    refine ⟨?_, by rwa [Pass.finished_ids_settle]⟩
    unfold Stage.ids at hopened ⊢
    rw [Pass.frames_ids_settle]
    simp only [hf, List.map_cons] at hopened ⊢
    cases hopened with
    | cons htop hrest =>
      refine .cons ?_ hrest
      intro i hi d' hd' t ht'
      rcases Nat.lt_succ_iff_lt_or_eq.mp hi with hlt | rfl
      · exact htop i hlt d' hd' t ht'
      · obtain rfl : d = d' := Option.some.inj (hd.symm.trans hd')
        exact hknown t (Pass.knows_iff.mp (ht t ht'))
  | @leave p frame rest ks hf hfloor =>
    unfold Stage.ids at hopened
    rw [hf, List.map_cons] at hopened
    cases hopened with
    | cons htop hrest =>
      rw [Pass.leave_of_frames hf] at htop hrest hdone ⊢
      refine ⟨hrest, ?_⟩
      intro id hid hrid
      simp only [List.map_append, List.mem_append] at hid
      rcases hid with (hid | hid) | hid
      · exact hdone id (List.mem_append_left _ hid) hrid
      · have hidf : id = frame.id := by simpa [Frame.toModel] using hid
        rw [hidf]
        exact htop
      · exact hdone id (List.mem_append_right _ hid) hrid

theorem Occurs.publish_ids {s : Scope} {p : Pass} (h : Occurs s ⟨p, []⟩) (id : ModelId) :
    id ∈ (s.publish p).stored.map (·.id) ↔ id ∈ p.ids s := by
  rw [h.publish_stored, List.map_append, Registry.ids_foldl_markStored, Pass.ids, h.frames_eq_nil]
  simp only [List.map_nil, List.nil_append, List.mem_append]
  exact Or.comm

theorem Occurs.closed {s : Scope} {a : Stage} (h : Occurs s a) : Closed s a := by
  induction h with
  | start schema singularTables => exact ⟨.nil, by simp⟩
  | step _ hstep ih => exact hstep.closed ih
  | @publish s p hp ih =>
    refine ⟨.nil, ?_⟩
    intro id hid hr i hi d hd t ht
    have hid' : id ∈ p.ids s := (hp.publish_ids id).mp (by simpa using hid)
    rw [Pass.ids, hp.frames_eq_nil] at hid'
    have hknown : t ∈ p.ids s := ih.done id (by simpa using hid') hr i hi d hd t ht
    exact (hp.publish_ids t).mpr hknown

end Resolution

/-! ## Sessions -/

namespace Registry

section

variable {s : Schema} {r : Registry} (hr : Occurs (r.scope s) ⟨{}, []⟩)

include hr

theorem contains_of_refers {a b : ModelId} (ha : r.contains a = true) (hab : s.Refers a b) :
    r.contains b = true := by
  rw [contains_iff] at ha ⊢
  obtain ⟨hrec, d, hd, hheld⟩ := hab
  obtain ⟨i, hi⟩ := List.getElem?_of_mem hd
  have hlt : i < (s.exported a).length := (List.getElem?_eq_some_iff.mp hi).1
  exact hr.closed.done a (List.mem_append_right _ ha) hrec i hlt d hi b
    (FieldDeclaration.target?_eq_some_iff.mpr hheld)

theorem contains_of_reaches {a b : ModelId} (ha : r.contains a = true) (hab : s.Reaches a b) :
    r.contains b = true := by
  induction hab with
  | refl => exact ha
  | tail _ href ih => exact contains_of_refers hr ih href

/-- A request adds what its model reaches, and nothing else. -/
theorem contains_serve (q : Request) (id : ModelId) :
    (r.serve s q).1.contains id = true ↔ r.contains id = true ∨ s.Reaches q.model id := by
  have hserved := occurs_serve hr q
  constructor
  · intro hid
    rcases r.models_serve s q with ⟨-, hmodels⟩ | ⟨hnew, -⟩
    · rw [contains, hmodels] at hid
      exact Or.inl hid
    · have hsteps := (passFor_answers s hnew).steps
      have hreached : Reached (r.scope s) q.demand ⟨r.passFor s q, []⟩ :=
        hsteps.reached ⟨by simp [Stage.ids], by simp⟩
      rw [contains_iff, models_serve_of_new hr hnew, List.map_append,
        ids_foldl_markStored, List.mem_append] at hid
      rcases hid with hid | hid
      · exact Or.inl (contains_iff.mpr hid)
      · obtain ⟨m, hm, rfl⟩ := List.mem_map.mp hid
        exact Or.inr (hreached.finished m hm)
  · rintro (hid | hreach)
    · rw [contains_iff] at hid ⊢
      obtain ⟨m, hm, rfl⟩ := List.mem_map.mp hid
      obtain ⟨i, hi⟩ := List.getElem?_of_mem hm
      obtain ⟨n, hn, hmn⟩ := extends_serve hr q i m hi
      exact List.mem_map.mpr ⟨n, List.mem_of_getElem? hn, hmn.id_eq⟩
    · refine contains_of_reaches hserved ?_ hreach
      obtain ⟨m, hm, hid⟩ := getElem?_of_position? (position?_serve hr q)
      rw [contains_iff, ← hid]
      exact List.mem_map_of_mem (List.mem_of_getElem? hm)

theorem contains_serveAll (qs : List Request) (id : ModelId) :
    (r.serveAll s qs).contains id = true ↔
      r.contains id = true ∨ ∃ q ∈ qs, s.Reaches q.model id := by
  induction qs generalizing r with
  | nil => simp [serveAll]
  | cons q qs ih =>
    rw [serveAll_cons, ih (occurs_serve hr q), contains_serve hr]
    simp [or_assoc]

end

/-- After any session, the registry holds the models reached from those that were asked for and no
others.  It therefore holds whatever its models refer to.  Each of its models has a place of its own,
also where two models have one name. -/
theorem contains_session_iff (s : Schema) (c : Config) (qs : List Request) :
    let r := serveAll s { config := c } qs
    (∀ id, r.contains id = true ↔ ∃ q ∈ qs, s.Reaches q.model id) ∧
    (∀ a b, r.contains a = true → s.Refers a b → r.contains b = true) ∧
    ∀ a b, r.contains a = true → r.contains b = true → a ≠ b → r.position? a ≠ r.position? b := by
  intro r
  have hr : Occurs (r.scope s) ⟨{}, []⟩ := occurs_session s c qs
  refine ⟨?_, fun a b => contains_of_refers hr, ?_⟩
  · intro id
    rw [contains_serveAll (r := { config := c }) (.start s c.singularTables)]
    simp [contains]
  · intro a b ha hb hne heq
    cases hpos : r.position? a with
    | none => exact position?_eq_none_iff.mp hpos (contains_iff.mp ha)
    | some i =>
      obtain ⟨m, hm, hma⟩ := getElem?_of_position? hpos
      obtain ⟨n, hn, hnb⟩ := getElem?_of_position? (heq.symm.trans hpos)
      obtain rfl : m = n := Option.some.inj (hm.symm.trans hn)
      exact hne (hma.symm.trans hnb)

end Registry
end RecordMapping
