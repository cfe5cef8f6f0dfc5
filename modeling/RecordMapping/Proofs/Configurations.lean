import RecordMapping.Proofs.Counters
import RecordMapping.Proofs.TableNames

/-!
What a configuration decides.

Of the configuration, a pass sees whether derived names of tables are singular, and a model gets its
name when its resolution ends.  Nothing reads this name before the pass is over.  So what is done in a
pass does not change when names are forgotten, and passes with different configurations do the same.
-/

namespace RecordMapping

open Resolution

/-- The model without the name of its table. -/
def Model.unnamed (m : Model) : Model := { m with tableName := "" }

namespace Resolution

/-! ## Passes without names -/

/-- What is stored, without names, and no setting for them. -/
def Scope.unnamed (s : Scope) : Scope :=
  { s with singularTables := false, stored := s.stored.map Model.unnamed }

def Pass.unnamed (p : Pass) : Pass := { p with finished := p.finished.map Model.unnamed }

namespace Pass

@[simp]
theorem frames_unnamed (p : Pass) : p.unnamed.frames = p.frames := rfl

theorem find?_map_unnamed (models : List Model) (id : ModelId) :
    (models.map Model.unnamed).find? (·.id == id) =
      (models.find? (·.id == id)).map Model.unnamed :=
  List.find?_map

theorem view?_unnamed (s : Scope) (p : Pass) (id : ModelId) :
    p.unnamed.view? s.unnamed id = p.view? s id := by
  have hviews : viewModel ∘ Model.unnamed = viewModel := rfl
  simp only [view?, Pass.unnamed, Scope.unnamed, find?_map_unnamed, ← Option.map_or, Option.map_map,
    hviews]

theorem knows_unnamed (s : Scope) (p : Pass) (id : ModelId) :
    p.unnamed.knows s.unnamed id = p.knows s id := by rw [knows, knows, view?_unnamed]

theorem side_unnamed (s : Scope) (p : Pass) : p.unnamed.side s.unnamed = p.side s := by
  funext id
  rw [side, side, view?_unnamed]
  rfl

theorem mark_unnamed (p : Pass) (m : Mark) : (p.mark m).unnamed = p.unnamed.mark m := by
  have hmarked : ∀ x : Model, (if x.id = m.model then x.mark m.field else x).unnamed =
      if x.unnamed.id = m.model then x.unnamed.mark m.field else x.unnamed := by
    intro x
    show _ = if x.id = m.model then x.unnamed.mark m.field else x.unnamed
    split <;> rfl
  rw [mark, mark, frames_unnamed]
  split
  · rfl
  · simp only [Pass.unnamed, List.map_map, Function.comp_def, hmarked]

theorem markAll_unnamed (p : Pass) (marks : List Mark) :
    (p.markAll marks).unnamed = p.unnamed.markAll marks := by
  induction marks generalizing p with
  | nil => rfl
  | cons m marks ih =>
    show ((p.mark m).markAll marks).unnamed = (p.unnamed.mark m).markAll marks
    rw [ih, mark_unnamed]

theorem conclude_unnamed (s : Scope) (p : Pass) (i : Nat) (target : ModelId) (o : Outcome) :
    (p.conclude s i target o).unnamed = p.unnamed.conclude s.unnamed i target o := by
  cases o with
  | column scanner => rfl
  | related r => rfl
  | unresolved foreignKey => rfl
  | embedded =>
    rw [conclude, conclude, side_unnamed]
    rfl

theorem settle_unnamed (s : Scope) (p : Pass) (i : Nat) :
    (p.settle s i).unnamed = p.unnamed.settle s.unnamed i := by
  unfold settle
  rw [side_unnamed, frames_unnamed]
  cases p.frames with
  | nil => rfl
  | cons frame rest =>
    cases hslot : frame.slots[i]? with
    | none => simp [hslot]
    | some slot =>
      cases hignored : slot.field.isIgnored with
      | true => simp [hslot, hignored]
      | false => simp [hslot, hignored, conclude_unnamed, markAll_unnamed]

theorem leave_unnamed (p : Pass) (tableName : String) :
    (p.leave tableName).unnamed = p.unnamed.leave "" := by
  unfold leave
  rw [frames_unnamed]
  cases p.frames with
  | nil => rfl
  | cons frame rest =>
    simp only [finish, Pass.unnamed, List.map_append]
    rfl

theorem enter_unnamed (s : Scope) (p : Pass) (id : ModelId) :
    (p.enter s id).unnamed = p.unnamed.enter s.unnamed id := rfl

theorem finish_unnamed (p : Pass) (m : Model) :
    (p.finish m).unnamed = p.unnamed.finish m.unnamed := by
  simp [finish, Pass.unnamed]

end Pass

/-! ## Two runs of a pass -/

section

variable {s s' : Scope} (hs : s'.unnamed = s.unnamed)

include hs

theorem knows_congr {p p' : Pass} (hp : p'.unnamed = p.unnamed) (id : ModelId) :
    p'.knows s' id = p.knows s id := by
  rw [← Pass.knows_unnamed s' p', ← Pass.knows_unnamed s p, hs, hp]

/-- The runs settle the same slots in the same way if they reach the targets in the same way. -/
theorem foldl_visit_congr {opened : List ModelId}
    (hreach : ∀ (t : ModelId) (p p' : Pass), p'.unnamed = p.unnamed →
      (resolve s' opened t none p').unnamed = (resolve s opened t none p).unnamed)
    (slots : List (FieldDeclaration × Nat)) {p p' : Pass} (hp : p'.unnamed = p.unnamed) :
    (slots.foldl (visit s' opened) p').unnamed = (slots.foldl (visit s opened) p).unnamed := by
  induction slots generalizing p p' with
  | nil => exact hp
  | cons slot slots ih =>
    have hreached : (reach s' opened p' slot.1.target?).unnamed =
        (reach s opened p slot.1.target?).unnamed := by
      cases slot.1.target? with
      | none => exact hp
      | some t =>
        rw [reach, reach, knows_congr hs hp]
        split
        · exact hp
        · exact hreach t p p' hp
    apply ih
    rw [visit, visit, Pass.settle_unnamed, Pass.settle_unnamed, hreached, hs]

theorem resolve_congr (opened : List ModelId) (id : ModelId) (instance? instance?' : Option String)
    {p p' : Pass} (hp : p'.unnamed = p.unnamed) :
    (resolve s' opened id instance?' p').unnamed = (resolve s opened id instance? p).unnamed := by
  have hschema : s'.schema = s.schema := by
    show s'.unnamed.schema = s.unnamed.schema
    rw [hs]
  induction opened, id, instance?, p using resolve.induct s generalizing p' instance?' with
  | case1 opened id instance? p hopen ih =>
    obtain ⟨hr, ho⟩ := hopen
    have hentered : (p'.enter s' id).unnamed = (p.enter s id).unnamed := by
      rw [Pass.enter_unnamed, Pass.enter_unnamed, hs, hp]
    rw [resolve_of_isRecord hr ho, resolve_of_isRecord (hschema ▸ hr) ho, Pass.leave_unnamed,
      Pass.leave_unnamed, hschema]
    refine congrArg (Pass.leave · "") (foldl_visit_congr hs ?_ _ hentered)
    intro t q q' hq
    exact ih q t none hq
  | case2 opened id instance? p hopen =>
    rw [resolve, dif_neg (hschema ▸ hopen), resolve, dif_neg hopen, Pass.finish_unnamed,
      Pass.finish_unnamed, hp]

end

end Resolution

namespace Schema

theorem tableName_of_eq_none {s : Schema} {id : ModelId} {instance? : Option String}
    (h : instance?.or (s.declaration id).tableName? = none) (singular : Bool) :
    s.tableName singular id instance? = Naming.tableName (s.name id) singular := by
  show (instance?.or (s.declaration id).tableName?).getD _ = _
  rw [h]
  rfl

/-- A name that depends on the configuration is derived. -/
theorem eq_none_of_tableName_ne {s : Schema} {id : ModelId} {instance? : Option String}
    {singular singular' : Bool}
    (h : s.tableName singular id instance? ≠ s.tableName singular' id instance?) :
    instance?.or (s.declaration id).tableName? = none := by
  cases hname : instance?.or (s.declaration id).tableName? with
  | none => rfl
  | some name => simp [tableName, hname] at h

end Schema

namespace Registry

/-! ## Registries without names -/

/-- What is stored, without names, and what has been counted. -/
def unnamed (r : Registry) : Registry :=
  { r with config := {}, models := r.models.map Model.unnamed }

theorem contains_unnamed (r : Registry) (id : ModelId) : r.unnamed.contains id = r.contains id := by
  rw [contains, contains, unnamed, List.any_map]
  rfl

theorem markStored_unnamed (models : List Model) (m : Mark) :
    markStored (models.map Model.unnamed) m = (markStored models m).map Model.unnamed := by
  rw [markStored, markStored, List.map_map, List.map_map]
  apply List.map_congr_left
  intro x _
  show (if x.id = m.model then _ else _) = (if x.id = m.model then _ else _ : Model).unnamed
  split <;> rfl

theorem insertNew_unnamed (models : List Model) (m : Model) :
    insertNew (models.map Model.unnamed) m.unnamed = (insertNew models m).map Model.unnamed := by
  have hany : (models.map Model.unnamed).any (·.id == m.unnamed.id) = models.any (·.id == m.id) :=
    List.any_map
  rw [insertNew, insertNew, hany]
  split
  · rfl
  · rw [List.map_append]
    rfl

theorem publish_unnamed (r : Registry) (p : Pass) :
    (r.publish p).unnamed = r.unnamed.publish p.unnamed := by
  have hmarks : p.marks.foldl markStored (r.models.map Model.unnamed) =
      (p.marks.foldl markStored r.models).map Model.unnamed :=
    List.foldl_hom (List.map Model.unnamed) markStored_unnamed
  have hmodels : (p.finished.map Model.unnamed).foldl insertNew
      (p.marks.foldl markStored (r.models.map Model.unnamed)) =
        (p.finished.foldl insertNew (p.marks.foldl markStored r.models)).map Model.unnamed := by
    rw [hmarks, List.foldl_map]
    exact List.foldl_hom (List.map Model.unnamed) insertNew_unnamed
  simp only [publish, unnamed, Pass.unnamed, hmodels, List.length_map]

/-! ## Two sessions -/

section

variable {s : Schema} {r r' : Registry}

theorem serve_congr (h : r'.unnamed = r.unnamed) (q : Request) :
    (r'.serve s q).1.unnamed = (r.serve s q).1.unnamed := by
  have hcontains : r'.contains q.model = r.contains q.model := by
    rw [← contains_unnamed, h, contains_unnamed]
  cases hq : r.contains q.model with
  | true =>
    rw [serve_of_contains s hq, serve_of_contains s (hcontains.trans hq)]
    show { r'.unnamed with hits := r'.unnamed.hits + 1 } =
      { r.unnamed with hits := r.unnamed.hits + 1 }
    rw [h]
  | false =>
    have hscope : (r'.scope s).unnamed = (r.scope s).unnamed := by
      show r'.unnamed.scope s = r.unnamed.scope s
      rw [h]
    have hpass : (r'.passFor s q).unnamed = (r.passFor s q).unnamed :=
      resolve_congr hscope [] q.model q.instance? q.instance? rfl
    rw [serve_of_new s hq, serve_of_new s (hcontains.trans hq), publish_unnamed, publish_unnamed,
      hpass]
    show { r'.unnamed with misses := r'.unnamed.misses + 1 }.publish _ =
      { r.unnamed with misses := r.unnamed.misses + 1 }.publish _
    rw [h]

theorem serveAll_congr (h : r'.unnamed = r.unnamed) (qs : List Request) :
    (r'.serveAll s qs).unnamed = (r.serveAll s qs).unnamed := by
  induction qs generalizing r r' with
  | nil => exact h
  | cons q qs ih => exact ih (serve_congr h q)

end

/-! ## Names -/

theorem exists_firstFor_of_mem {s : Schema} {c : Config} {qs : List Request} {m : Model}
    (hm : m ∈ (serveAll s { config := c } qs).models) : ∃ q, FirstFor s qs m.id q := by
  have hstart : Occurs (scope { config := c } s) ⟨{}, []⟩ := .start s c.singularTables
  have hcontains := contains_iff.mpr (List.mem_map_of_mem hm)
  rw [contains_serveAll hstart] at hcontains
  exact exists_firstFor (hcontains.resolve_left (by simp [contains]))

/-- The first request that reaches a model decides the name of its table. -/
theorem tableName_of_firstFor {s : Schema} {c : Config} {qs : List Request} {q : Request} {m : Model}
    (hq : FirstFor s qs m.id q) (hm : m ∈ (serveAll s { config := c } qs).models) :
    m.tableName =
      if s.isRecord m.id then s.tableName c.singularTables m.id (q.nameFor m.id) else "" := by
  have hstart : Occurs (scope { config := c } s) ⟨{}, []⟩ := .start s c.singularTables
  have hoccurs := occurs_session s c qs
  obtain ⟨before, after, rfl, hbefore, hreach⟩ := hq
  have hearlier := occurs_session s c before
  have hconfig := config_serveAll s { config := c } before
  have hnew : (serveAll s { config := c } before).contains m.id = false := by
    rw [← Bool.not_eq_true, contains_serveAll hstart]
    rintro (h | ⟨p, hp, hpm⟩)
    · simp [contains] at h
    · exact hbefore p hp hpm
  rw [serveAll_append, serveAll_cons] at hm hoccurs
  have hserved := (contains_serve hearlier q m.id).mpr (Or.inr hreach)
  obtain ⟨n, hn, hid⟩ := List.mem_map.mp (contains_iff.mp hserved)
  obtain ⟨n', hn', hid', hname⟩ := exists_tableName_serveAll (occurs_serve hearlier q) hn after
  obtain rfl : n' = m := eq_of_id_eq hoccurs hn' hm (hid'.trans hid)
  rw [hname, tableName_serve hearlier hn (hid ▸ hnew), hid, Demand.tableName, scope, hconfig]
  rfl

/-- Both models have names derived from the name of their type, and one of the registries keeps such
names singular. -/
structure DerivesNames (s : Schema) (qs : List Request) (r r' : Registry) (m m' : Model) : Prop where
  record : s.isRecord m.id = true
  unchosen : (s.declaration m.id).tableName? = none
  unbrought : ∃ q, FirstFor s qs m.id q ∧ q.nameFor m.id = none
  left : m.tableName = Naming.tableName (s.name m.id) r.config.singularTables
  right : m'.tableName = Naming.tableName (s.name m.id) r'.config.singularTables
  differs : r.config.singularTables ≠ r'.config.singularTables

/-- The registries hold the same models in the same order, and have counted the same.  Their models may
have different names where these are derived. -/
structure AgreesUpToNames (s : Schema) (qs : List Request) (r r' : Registry) : Prop where
  models : r'.models.map Model.unnamed = r.models.map Model.unnamed
  hits : r'.hits = r.hits
  misses : r'.misses = r.misses
  resolved : r'.resolved = r.resolved
  names : ∀ (i : Nat) (m m' : Model), r.models[i]? = some m → r'.models[i]? = some m' →
    m.tableName ≠ m'.tableName → DerivesNames s qs r r' m m'

theorem agreesUpToNames (s : Schema) (c c' : Config) (qs : List Request) :
    AgreesUpToNames s qs (serveAll s { config := c } qs) (serveAll s { config := c' } qs) := by
  have hstart : unnamed { config := c' } = unnamed { config := c } := rfl
  have hsame := serveAll_congr (s := s) hstart qs
  have hmodels : (serveAll s { config := c' } qs).models.map Model.unnamed =
      (serveAll s { config := c } qs).models.map Model.unnamed := congrArg Registry.models hsame
  refine ⟨hmodels, ?_, ?_, ?_, ?_⟩
  · show (serveAll s { config := c' } qs).unnamed.hits = _
    rw [hsame]
    rfl
  · show (serveAll s { config := c' } qs).unnamed.misses = _
    rw [hsame]
    rfl
  · show (serveAll s { config := c' } qs).unnamed.resolved = _
    rw [hsame]
    rfl
  · intro i m m' hm hm' hne
    have hunnamed : m'.unnamed = m.unnamed := by
      have hplace := congrArg (·[i]?) hmodels
      simpa [hm, hm'] using hplace
    have hid : m'.id = m.id := by
      show m'.unnamed.id = m.unnamed.id
      rw [hunnamed]
    have hmem := List.mem_of_getElem? hm
    obtain ⟨q, hq⟩ := exists_firstFor_of_mem hmem
    have hname := tableName_of_firstFor hq hmem
    have hname' := tableName_of_firstFor (hid ▸ hq) (List.mem_of_getElem? hm')
    rw [hid] at hname'
    cases hrecord : s.isRecord m.id with
    | false =>
      simp [hname, hname', hrecord] at hne
    | true =>
      rw [if_pos hrecord] at hname hname'
      rw [hname, hname'] at hne
      have hderived := Schema.eq_none_of_tableName_ne hne
      obtain ⟨hbrought, hchosen⟩ := Option.or_eq_none_iff.mp hderived
      rw [Schema.tableName_of_eq_none hderived] at hname hname'
      refine ⟨hrecord, hchosen, ⟨q, hq, hbrought⟩, ?_, ?_, ?_⟩
      · rw [hname, config_serveAll]
      · rw [hname', config_serveAll]
      · rw [config_serveAll, config_serveAll]
        intro hsame
        exact hne (by rw [show c.singularTables = c'.singularTables from hsame])

/-! ## Requests that may be refused -/

/-- The second request asks for the same as the first, and may be refused where that one may not. -/
inductive Request.Checks : Request → Request → Prop
  | same (q : Request) : Checks q q
  | checked (id : ModelId) : Checks (.get id) (.tryGet id)

theorem serve_checks {q q' : Request} (h : q.Checks q') (s : Schema) (r : Registry) :
    (r.serve s q').1 = (r.serve s q).1 := by
  cases h with
  | same q => rfl
  | checked id => rfl

theorem serveAll_checks {qs qs' : List Request} (h : List.Forall₂ Request.Checks qs qs')
    (s : Schema) (r : Registry) : r.serveAll s qs' = r.serveAll s qs := by
  induction h generalizing r with
  | nil => rfl
  | cons hq _ ih => rw [serveAll_cons, serveAll_cons, serve_checks hq, ih]

/-- The answer is the same place, or a refusal. -/
theorem answer_tryGet (s : Schema) (r : Registry) (id : ModelId) :
    ∃ place, (r.serve s (.get id)).2 = .model place ∧
      ((r.serve s (.tryGet id)).2 = .model place ∨ ∃ e, (r.serve s (.tryGet id)).2 = .refusal e) := by
  refine ⟨(r.fetch s id none).2, rfl, ?_⟩
  have hanswer : (r.serve s (.tryGet id)).2 =
      (r.fetch s id none).1.answer s (r.fetch s id none).2 (.tryGet id) := rfl
  rw [hanswer, answer]
  split
  · next e _ => exact Or.inr ⟨e, rfl⟩
  · exact Or.inl rfl

/-- Two sessions with the same requests differ in nothing that is stored but in the names of tables, and
in these only where one configuration derives them in the singular and the other in the plural.  Requests
that may be refused leave the registry at every moment as requests that may not. -/
theorem config_session (s : Schema) (c c' : Config) (qs : List Request) :
    AgreesUpToNames s qs (serveAll s { config := c } qs) (serveAll s { config := c' } qs) ∧
    (∀ qs', List.Forall₂ Request.Checks qs qs' → ∀ k,
      serveAll s { config := c } (qs'.take k) = serveAll s { config := c } (qs.take k)) ∧
    ∀ id, ∃ place, ((serveAll s { config := c } qs).serve s (.get id)).2 = .model place ∧
      (((serveAll s { config := c } qs).serve s (.tryGet id)).2 = .model place ∨
        ∃ e, ((serveAll s { config := c } qs).serve s (.tryGet id)).2 = .refusal e) := by
  refine ⟨agreesUpToNames s c c' qs, ?_, answer_tryGet s _⟩
  intro qs' hqs k
  exact serveAll_checks (List.forall₂_take k hqs) s { config := c }

/-- The users have the name that a record brought along, and the emails have derived ones. -/
theorem config_session_emails :
    let qs : List Request := [.getFor 0 (some "people"), .get 1]
    let r := serveAll emails {} qs
    let r' := serveAll emails { config := { singularTables := true, strict := true } } qs
    r.models.map (·.tableName) = ["emails", "people"] ∧
      r'.models.map (·.tableName) = ["email", "people"] ∧
      (∃ m m', r.models[0]? = some m ∧ r'.models[0]? = some m' ∧ m.tableName ≠ m'.tableName ∧
        DerivesNames emails qs r r' m m') ∧
      List.Forall₂ Request.Checks qs [.getFor 0 (some "people"), .tryGet 1] ∧
      serveAll emails {} [.getFor 0 (some "people"), .tryGet 1] = r := by
  intro qs r r'
  have hnames : r.models.map (·.tableName) = ["emails", "people"] := by decide +kernel
  have hnames' : r'.models.map (·.tableName) = ["email", "people"] := by decide +kernel
  have hchecks : List.Forall₂ Request.Checks qs [.getFor 0 (some "people"), .tryGet 1] :=
    .cons (.same _) (.cons (.checked 1) .nil)
  obtain ⟨hagrees, hsame, -⟩ :=
    config_session emails {} { singularTables := true, strict := true } qs
  have hfirst : r.models[0]?.map (·.tableName) = some "emails" := by
    rw [← List.getElem?_map, hnames]
    rfl
  have hfirst' : r'.models[0]?.map (·.tableName) = some "email" := by
    rw [← List.getElem?_map, hnames']
    rfl
  obtain ⟨m, hm, hname⟩ := Option.map_eq_some_iff.mp hfirst
  obtain ⟨m', hm', hname'⟩ := Option.map_eq_some_iff.mp hfirst'
  have hne : m.tableName ≠ m'.tableName := by
    rw [hname, hname']
    decide
  exact ⟨hnames, hnames', ⟨m, m', hm, hm', hne, hagrees.names 0 m m' hm hm' hne⟩, hchecks,
    hsame _ hchecks 2⟩

end Registry
end RecordMapping
