import RecordMapping.Proofs.Resolution.Chronicle

/-!
The names of tables.

A model gets its table name in the pass that resolves it, and keeps it.  The name that a record brings
along is meant for the model which the pass was begun for.  This one lies at the bottom of the open
models, so that it is the only one that is left with no other model open.
-/

namespace RecordMapping

open Resolution

/-- The request in whose pass a model is resolved: the first one that reaches it. -/
def Registry.FirstFor (s : Schema) (qs : List Request) (id : ModelId) (q : Request) : Prop :=
  ∃ before after, qs = before ++ q :: after ∧ (∀ p ∈ before, ¬ s.Reaches p.model id) ∧
    s.Reaches q.model id

/-- The name that the request's record brings along for the model. -/
def Registry.Request.nameFor (q : Request) (id : ModelId) : Option String :=
  if q.model = id then q.instance? else none

/-- How requests name the table of a model that they have stored. -/
structure Registry.Names (s : Schema) (c : Config) (qs : List Request) (m : Model) : Prop where
  first : ∃ q, FirstFor s qs m.id q ∧ m.tableName =
    if s.isRecord m.id then
      ((q.nameFor m.id).or (s.declaration m.id).tableName?).getD
        (Naming.tableName (s.name m.id) c.singularTables)
    else ""
  kept : ∀ more, ∃ n ∈ (serveAll s { config := c } (qs ++ more)).models,
    n.id = m.id ∧ n.tableName = m.tableName
  unhooked : ∀ hook?, m ∈
    (serveAll s { config := { c with tableNameHook? := hook? } } qs).models

namespace Resolution

/-! ## Names in a pass -/

/-- The name that a model gets in a pass. -/
def Demand.tableName (s : Scope) (q : Demand) (id : ModelId) : String :=
  if s.schema.isRecord id then
    s.schema.tableName s.singularTables id (if q.model = id then q.instance? else none)
  else ""

/-- The demanded model lies at the bottom, and each finished model has the name that it gets. -/
structure Named (s : Scope) (q : Demand) (a : Stage) : Prop where
  bottom : ∀ id ∈ a.ids.getLast?, q.model = id
  finished : ∀ m ∈ a.pass.finished.map Model.unmarked, m.tableName = q.tableName s m.id

theorem Pass.unmarked_finished_settle (s : Scope) (p : Pass) (k : Nat) :
    (p.settle s k).finished.map Model.unmarked = p.finished.map Model.unmarked := by
  have hlog := p.log_settle s k
  rw [log, log, List.map_append, List.map_append] at hlog
  exact List.append_cancel_left hlog

section

variable {s : Scope} {q : Demand} {p : Pass} {ks : List Nat}

theorem Named.enter {id : ModelId} (h : Named s q ⟨p, ks⟩) (hdue : Due s q ⟨p, ks⟩ id) :
    Named s q ⟨p.enter s id, 0 :: ks⟩ := by
  refine ⟨?_, h.finished⟩
  show ∀ x ∈ (id :: p.frames.map (·.id)).getLast?, q.model = x
  cases hdue with
  | demanded hf => simp [hf]
  | @referred p frame rest k ks d id hf hd ht =>
    have hbottom := h.bottom
    rw [Stage.ids, hf, List.map_cons] at hbottom
    rw [hf, List.map_cons, List.getLast?_cons_cons]
    exact hbottom

theorem Named.finish (h : Named s q ⟨p, ks⟩) {m : Model} (hm : m.tableName = q.tableName s m.id) :
    Named s q ⟨p.finish m, ks⟩ := by
  refine ⟨h.bottom, ?_⟩
  intro n hn
  show n.tableName = q.tableName s n.id
  rw [Pass.finish, List.map_append, List.mem_append] at hn
  rcases hn with hn | hn
  · exact h.finished n hn
  · rw [List.mem_singleton.mp hn]
    exact hm

/-- The model that is left is the demanded one if and only if no other model is open. -/
theorem Named.eq_model_iff {frame : Frame} {rest : List Frame} {k : Nat}
    (h : Named s q ⟨p, k :: ks⟩) (hb : Stage.Balanced ⟨p, k :: ks⟩) (hn : (p.ids s).Nodup)
    (hf : p.frames = frame :: rest) : ks = [] ↔ q.model = frame.id := by
  have hbottom := h.bottom
  have hlength : ks.length = rest.length := by simpa [Stage.Balanced, Stage.ids, hf] using hb
  have hnew : frame.id ∉ rest.map (·.id) := by
    rw [Pass.ids, hf, List.map_cons, List.cons_append, List.nodup_cons] at hn
    exact fun hmem => hn.1 (List.mem_append_left _ hmem)
  rw [Stage.ids, hf, List.map_cons] at hbottom
  cases rest with
  | nil =>
    have hks : ks = [] := List.eq_nil_of_length_eq_zero hlength
    exact iff_of_true hks (hbottom frame.id rfl)
  | cons frame' rest =>
    have hks : ks ≠ [] := by
      rintro rfl
      exact absurd hlength (Nat.succ_ne_zero _).symm
    refine iff_of_false hks ?_
    intro hid
    apply hnew
    rw [List.map_cons, List.getLast?_cons_cons] at hbottom
    have hlast := List.getLast?_eq_some_getLast (List.cons_ne_nil frame'.id (rest.map (·.id)))
    rw [← hid, hbottom _ hlast]
    exact List.getLast_mem _

theorem Named.leave {frame : Frame} {rest : List Frame}
    (h : Named s q ⟨p, (s.schema.exported frame.id).length :: ks⟩)
    (hb : Stage.Balanced ⟨p, (s.schema.exported frame.id).length :: ks⟩) (hn : (p.ids s).Nodup)
    (hr : s.schema.isRecord frame.id = true) (hf : p.frames = frame :: rest) :
    Named s q ⟨p.leave (s.schema.tableName s.singularTables frame.id
      (if ks = [] then q.instance? else none)), ks⟩ := by
  have hrest : Named s q ⟨{ p with frames := rest }, ks⟩ := by
    refine ⟨?_, h.finished⟩
    intro id hid
    apply h.bottom
    rw [Stage.ids, hf, List.map_cons]
    exact List.mem_getLast?_cons hid
  rw [Pass.leave, hf]
  apply hrest.finish
  show s.schema.tableName s.singularTables frame.id _ = q.tableName s frame.id
  rw [Demand.tableName, if_pos hr]
  simp only [h.eq_model_iff hb hn hf]

end

theorem Step.named {s : Scope} {q : Demand} {floor : Nat} {a b : Stage}
    (h : Step s q floor a b) (hocc : Occurs s a) (ha : Named s q a) : Named s q b := by
  cases h with
  | enter hdue hnew hr => exact ha.enter hdue
  | blank hdue hnew hr =>
    apply ha.finish
    simp [Demand.tableName, Model.blank, hr]
  | settle hf hd ht hfloor =>
    refine ⟨?_, ?_⟩
    · rw [Stage.ids, Pass.frames_ids_settle]
      exact ha.bottom
    · rw [Pass.unmarked_finished_settle]
      exact ha.finished
  | leave hf hfloor =>
    exact ha.leave hocc.balanced hocc.nodup (hocc.traced.top hf).1.isRecord hf

theorem Occurs.named {s : Scope} {q : Demand} {floor : Nat} {a b : Stage} (hocc : Occurs s a)
    (hsteps : Steps s q floor a b) (ha : Named s q a) : Named s q b := by
  induction hsteps with
  | refl => exact ha
  | tail hsteps hstep ih => exact hstep.named (hocc.steps hsteps) ih

end Resolution

namespace Registry

/-! ## Names in a registry -/

theorem exists_firstFor {s : Schema} {qs : List Request} {id : ModelId}
    (h : ∃ q ∈ qs, s.Reaches q.model id) : ∃ q, FirstFor s qs id q := by
  obtain ⟨q, hq, hreach⟩ := h
  induction qs with
  | nil => exact absurd hq List.not_mem_nil
  | cons p qs ih =>
    by_cases hp : s.Reaches p.model id
    · exact ⟨p, [], qs, rfl, by simp, hp⟩
    · have hlater : q ∈ qs := by
        rcases List.mem_cons.mp hq with rfl | hq
        · exact absurd hreach hp
        · exact hq
      obtain ⟨q', before, after, rfl, hbefore, hreach'⟩ := ih hlater
      exact ⟨q', p :: before, after, rfl, List.forall_mem_cons.mpr ⟨hp, hbefore⟩, hreach'⟩

theorem serveAll_append (s : Schema) (r : Registry) (qs more : List Request) :
    r.serveAll s (qs ++ more) = (r.serveAll s qs).serveAll s more := List.foldl_append

section

variable {s : Schema} {r : Registry} (hr : Occurs (r.scope s) ⟨{}, []⟩)

include hr

/-- A model that is new after a request has got its name from it. -/
theorem tableName_serve {q : Request} {m : Model} (hm : m ∈ (r.serve s q).1.models)
    (hnew : r.contains m.id = false) : m.tableName = q.demand.tableName (r.scope s) m.id := by
  rcases r.models_serve s q with ⟨-, hmodels⟩ | ⟨hmodel, -⟩
  · rw [hmodels] at hm
    rw [contains_iff.mpr (List.mem_map_of_mem hm)] at hnew
    contradiction
  · rw [models_serve_of_new hr hmodel] at hm
    rcases List.mem_append.mp hm with hold | hfinished
    · have hid : m.id ∈ r.models.map (·.id) := by
        rw [← ids_foldl_markStored (r.passFor s q).marks]
        exact List.mem_map_of_mem hold
      rw [contains_iff.mpr hid] at hnew
      contradiction
    · have hstart : Named (r.scope s) q.demand ⟨{}, []⟩ := ⟨by simp [Stage.ids], by simp⟩
      have hnamed := hr.named (passFor_answers s hmodel).steps hstart
      exact hnamed.finished m.unmarked (List.mem_map_of_mem hfinished)

/-- A stored model keeps its name. -/
theorem exists_tableName_serveAll {m : Model} (hm : m ∈ r.models) (qs : List Request) :
    ∃ n ∈ (r.serveAll s qs).models, n.id = m.id ∧ n.tableName = m.tableName := by
  obtain ⟨i, hi⟩ := List.getElem?_of_mem hm
  obtain ⟨n, hn, hmn⟩ := extends_serveAll hr qs i m hi
  exact ⟨n, List.mem_of_getElem? hn, hmn.id_eq, by rw [hmn.rest]⟩

end

/-- Of the configuration, the models depend on what the passes see of it. -/
theorem scope_serve_congr {s : Schema} {r r' : Registry} (h : r'.scope s = r.scope s)
    (q : Request) : (r'.serve s q).1.scope s = (r.serve s q).1.scope s := by
  have hmodels : r'.models = r.models := congrArg Scope.stored h
  rw [scope_serve, scope_serve, h]
  cases hq : r.contains q.model with
  | true =>
    have hq' : r'.contains q.model = true := by rw [contains, hmodels]; exact hq
    rw [serve_of_contains s hq, serve_of_contains s hq', hmodels]
  | false =>
    have hq' : r'.contains q.model = false := by rw [contains, hmodels]; exact hq
    rw [serve_of_new s hq, serve_of_new s hq', publish, publish, passFor, passFor, h, hmodels]

theorem scope_serveAll_congr {s : Schema} {r r' : Registry} (h : r'.scope s = r.scope s)
    (qs : List Request) : (r'.serveAll s qs).scope s = (r.serveAll s qs).scope s := by
  induction qs generalizing r r' with
  | nil => exact h
  | cons q qs ih => exact ih (scope_serve_congr h q)

/-- After any session, the name of a stored model's table is settled by the first request that reaches the
model.  If this asks for the model itself, the name that its record brings along comes first.  A type that
is no record has none.  No later request changes the name, and no hook has been applied to it. -/
theorem tableName_session (s : Schema) (c : Config) (qs : List Request) (m : Model)
    (hm : m ∈ (serveAll s { config := c } qs).models) : Names s c qs m := by
  have hstart : Occurs (scope { config := c } s) ⟨{}, []⟩ := .start s c.singularTables
  have hoccurs := occurs_session s c qs
  refine ⟨?_, ?_, ?_⟩
  · have hreached : ∃ q ∈ qs, s.Reaches q.model m.id := by
      have hcontains := contains_iff.mpr (List.mem_map_of_mem hm)
      rw [contains_serveAll hstart] at hcontains
      exact hcontains.resolve_left (by simp [contains])
    obtain ⟨q, before, after, rfl, hbefore, hreach⟩ := exists_firstFor hreached
    refine ⟨q, ⟨before, after, rfl, hbefore, hreach⟩, ?_⟩
    have hearlier := occurs_session s c before
    rw [serveAll_append, serveAll_cons] at hm hoccurs
    have hnew : (serveAll s { config := c } before).contains m.id = false := by
      rw [← Bool.not_eq_true, contains_serveAll hstart]
      rintro (h | ⟨p, hp, hpm⟩)
      · simp [contains] at h
      · exact hbefore p hp hpm
    have hconfig : (serveAll s { config := c } before).config = c := config_serveAll s _ before
    generalize serveAll s { config := c } before = r at hm hoccurs hearlier hnew hconfig
    -- The model stands in the registry from this request on.
    have hserved := (contains_serve hearlier q m.id).mpr (Or.inr hreach)
    obtain ⟨n, hn, hid⟩ := List.mem_map.mp (contains_iff.mp hserved)
    obtain ⟨n', hn', hid', hname⟩ :=
      exists_tableName_serveAll (occurs_serve hearlier q) hn after
    obtain rfl : n' = m := eq_of_id_eq hoccurs hn' hm (hid'.trans hid)
    rw [hname, tableName_serve hearlier hn (hid ▸ hnew), ← hid', ← hconfig]
    rfl
  · intro more
    rw [serveAll_append]
    exact exists_tableName_serveAll hoccurs hm more
  · intro hook?
    have hscope : scope { config := { c with tableNameHook? := hook? } } s =
        scope { config := c } s := rfl
    have hmodels : (serveAll s { config := { c with tableNameHook? := hook? } } qs).models =
        (serveAll s { config := c } qs).models :=
      congrArg Scope.stored (scope_serveAll_congr hscope qs)
    rw [hmodels]
    exact hm

/-- Emails that are first met with their users keep the derived name, whatever name an email brings along
later. -/
theorem tableName_session_emails :
    ∃ m ∈ (serveAll emails {} [.getFor 0 (some "people"), .getFor 1 (some "mails")]).models,
      m.id = 1 ∧ m.tableName = "emails" ∧
        Names emails {} [.getFor 0 (some "people"), .getFor 1 (some "mails")] m := by
  have hmodel : ((serveAll emails {} [.getFor 0 (some "people"), .getFor 1 (some "mails")]).models[0]?.map
      fun m => (m.id, m.tableName)) = some (1, "emails") := by decide +kernel
  obtain ⟨m, hm, heq⟩ := Option.map_eq_some_iff.mp hmodel
  obtain ⟨hid, hname⟩ := Prod.mk.inj heq
  have hmem := List.mem_of_getElem? hm
  exact ⟨m, hmem, hid, hname, tableName_session emails {} _ m hmem⟩

end Registry
end RecordMapping
