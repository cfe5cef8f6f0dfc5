import RecordMapping.Proofs.Reachability
import RecordMapping.Proofs.Resolution.Flags
import RecordMapping.Proofs.Rule

/-!
Fields that are marked as keys.

A field of a model that embeds no other one is marked if and only if some field of a stored record calls
for it, and which fields do is read off the declarations.  The invariant holds at every stage of a
session: what is marked is what the slots settled so far call for.  Settling one more slot sets the marks
that its declaration calls for, no matter where the marked model stands.
-/

namespace RecordMapping

open Resolution

/-! ## Calling for a mark -/

/-- A declared field of the owner calls for field `i` of a model to be marked.  The fields of a
polymorphic pair are called for by any field that names them, embeddings and join tables included.
Another key is called for if it is the one that was decided on. -/
inductive Schema.CallsFor (s : Schema) (owner : ModelId) (d : FieldDeclaration) :
    ModelId → Nat → Prop
  | polymorphicId {t : ModelId} {id type : Located} (hincluded : d.annotation.isExcluded = false)
      (ht : d.type.Holds t) (hr : s.isRecord t = true) (hpair : s.pair? t d = some (id, type)) :
      CallsFor s owner d t id.index
  | polymorphicType {t : ModelId} {id type : Located} (hincluded : d.annotation.isExcluded = false)
      (ht : d.type.Holds t) (hr : s.isRecord t = true) (hpair : s.pair? t d = some (id, type)) :
      CallsFor s owner d t type.index
  | theirs {t : ModelId} {kind : Relationship.Kind} {key : Located}
      (hincluded : d.annotation.isExcluded = false) (ht : d.type.Holds t)
      (hr : s.isRecord t = true) (hplain : ¬ s.Embeds d)
      (hdecision : s.decision owner t d = .theirs kind key) : CallsFor s owner d t key.index
  | own {t : ModelId} {key : Located} (hincluded : d.annotation.isExcluded = false)
      (ht : d.type.Holds t) (hr : s.isRecord t = true) (hplain : ¬ s.Embeds d)
      (hdecision : s.decision owner t d = .own key) : CallsFor s owner d owner key.index

namespace Resolution

section

variable {s : Schema} {owner t : ModelId} {d : FieldDeclaration} {i : Nat}

theorem callsFor_iff {u : ModelId} (hincluded : d.annotation.isExcluded = false)
    (hu : d.type.Holds u) (hr : s.isRecord u = true) :
    s.CallsFor owner d t i ↔ ⟨t, i⟩ ∈ pairMarks u (s.pair? u d) ∨
      ¬ s.Embeds d ∧ ⟨t, i⟩ ∈ (s.decision owner u d).marks owner u := by
  constructor
  · intro h
    cases h with
    | polymorphicId _ ht _ hpair =>
      obtain rfl := ht.unique hu
      rw [hpair]
      exact Or.inl (List.mem_cons_of_mem _ List.mem_cons_self)
    | polymorphicType _ ht _ hpair =>
      obtain rfl := ht.unique hu
      rw [hpair]
      exact Or.inl List.mem_cons_self
    | theirs _ ht _ hplain hdecision =>
      obtain rfl := ht.unique hu
      rw [hdecision]
      exact Or.inr ⟨hplain, List.mem_cons_self⟩
    | own _ ht _ hplain hdecision =>
      obtain rfl := ht.unique hu
      rw [hdecision]
      exact Or.inr ⟨hplain, List.mem_cons_self⟩
  · rintro (h | ⟨hplain, h⟩)
    · cases hpair : s.pair? u d with
      | none =>
        rw [hpair] at h
        exact absurd h List.not_mem_nil
      | some pair =>
        obtain ⟨id, type⟩ := pair
        rw [hpair] at h
        rcases List.mem_cons.mp h with h | h
        · obtain ⟨rfl, rfl⟩ := Mark.mk.inj h
          exact .polymorphicType hincluded hu hr hpair
        · obtain ⟨rfl, rfl⟩ := Mark.mk.inj (List.mem_singleton.mp h)
          exact .polymorphicId hincluded hu hr hpair
    · cases hdecision : s.decision owner u d with
      | own key =>
        rw [hdecision] at h
        obtain ⟨rfl, rfl⟩ := Mark.mk.inj (List.mem_singleton.mp h)
        exact .own hincluded hu hr hplain hdecision
      | theirs kind key =>
        rw [hdecision] at h
        obtain ⟨rfl, rfl⟩ := Mark.mk.inj (List.mem_singleton.mp h)
        exact .theirs hincluded hu hr hplain hdecision
      | joined source destination table =>
        rw [hdecision] at h
        exact absurd h List.not_mem_nil
      | paired kind key =>
        rw [hdecision] at h
        exact absurd h List.not_mem_nil
      | undecided foreignKey =>
        rw [hdecision] at h
        exact absurd h List.not_mem_nil

/-- Only fields of the owner and of the model that the field holds are called for. -/
theorem holds_of_callsFor (h : s.CallsFor owner d t i) :
    d.annotation.isExcluded = false ∧
      ∃ u, d.type.Holds u ∧ s.isRecord u = true ∧ (t = u ∨ t = owner) := by
  cases h with
  | polymorphicId hincluded ht hr _ => exact ⟨hincluded, t, ht, hr, Or.inl rfl⟩
  | polymorphicType hincluded ht hr _ => exact ⟨hincluded, t, ht, hr, Or.inl rfl⟩
  | theirs hincluded ht hr _ _ => exact ⟨hincluded, t, ht, hr, Or.inl rfl⟩
  | own hincluded ht hr _ _ => exact ⟨hincluded, _, ht, hr, Or.inr rfl⟩

theorem lt_of_callsFor (h : s.CallsFor owner d t i) : i < (s.exported t).length := by
  cases h with
  | polymorphicId _ _ _ hpair =>
    obtain ⟨name, hid, -⟩ := Schema.firstMatch?_of_pair? hpair
    exact Schema.index_lt_of_firstMatch? hid
  | polymorphicType _ _ _ hpair =>
    obtain ⟨name, -, htype⟩ := Schema.firstMatch?_of_pair? hpair
    exact Schema.index_lt_of_firstMatch? htype
  | theirs _ _ _ _ hdecision =>
    exact Schema.index_lt_of_firstMatch? (Schema.firstMatch?_of_theirs hdecision)
  | own _ _ _ _ hdecision =>
    exact Schema.index_lt_of_firstMatch? (Schema.firstMatch?_of_own hdecision)

/-- A field that refers to no record marks nothing. -/
theorem declaredMarks_eq_nil {known : Model → Prop} {v : View}
    (hv : Readable s known owner d.target? v)
    (h : ¬ ∃ u, d.target? = some u ∧ s.isRecord u = true) : declaredMarks s owner d v = [] := by
  cases hexcluded : d.annotation.isExcluded with
  | true => rw [declaredMarks, if_pos hexcluded]
  | false =>
    rw [declaredMarks, if_neg (by simp [hexcluded]), declaredFinding]
    cases hassociated : d.type.associated? with
    | none => exact marks_find_of_none hassociated _
    | some u =>
      have hdu : d.target? = some u := by simp [FieldDeclaration.target?, hexcluded, hassociated]
      have hrecord : s.isRecord u = false := by
        rw [Bool.eq_false_iff]
        intro hr
        exact h ⟨u, hdu, hr⟩
      rw [hdu] at hv
      rw [find_of_not_record hassociated (hv.isRecord.trans hrecord)]

/-- Settling a slot from what can be read marks those fields of a flat model that the declaration calls
for. -/
theorem mem_declaredMarks_iff {known : Model → Prop} {v : View} (hflat : s.IsFlat t)
    (ho : s.isRecord owner = true) (hv : Readable s known owner d.target? v) :
    ⟨t, i⟩ ∈ declaredMarks s owner d v ↔ s.CallsFor owner d t i := by
  by_cases htarget : ∃ u, d.target? = some u ∧ s.isRecord u = true
  · obtain ⟨u, hdu, hr⟩ := htarget
    obtain ⟨hincluded, hu⟩ := FieldDeclaration.target?_eq_some_iff.mp hdu
    rw [hdu] at hv
    have hdeclared : ⟨t, i⟩ ∈ declaredMarks s owner d v ↔ ⟨t, i⟩ ∈
        (find (s.declaredSide owner) s.declaredSide (Field.ofDeclaration d) d.anonymous).marks := by
      rw [declaredMarks, if_neg (by simp [hincluded])]
      by_cases htu : u = t
      · rw [declaredFinding_eq hu (hv.alike (Or.inr (htu ▸ hflat)))]
      · apply mem_marks_find_congr
        intro w hw
        obtain rfl : u = w := hu.unique (FieldType.associated?_eq_some_iff.mp hw)
        exact ⟨hv.isRecord.trans (s.isRecord_declaredView u).symm, Ne.symm htu, Ne.symm htu⟩
    rw [hdeclared, callsFor_iff hincluded hu hr]
    by_cases hembeds : s.Embeds d
    · rw [marks_find_declared_of_embeds hembeds hu hr]
      simp [hembeds]
    · rw [(find_declared hincluded hu ho hr hembeds).marks, List.mem_append]
      simp [hembeds]
  · rw [declaredMarks_eq_nil hv htarget]
    refine iff_of_false List.not_mem_nil fun h => htarget ?_
    obtain ⟨hincluded, u, hu, hr, -⟩ := holds_of_callsFor h
    exact ⟨u, FieldDeclaration.target?_eq_some_iff.mpr ⟨hincluded, hu⟩, hr⟩

end

/-! ## Slots that are settled -/

/-- Slot `j` of the model is settled.  In a model that is done, all slots are. -/
def Executed (s : Scope) (a : Stage) (id : ModelId) (j : Nat) : Prop :=
  (∃ k, (id, k) ∈ a.ids.zip a.settled ∧ j < k) ∨
    s.schema.isRecord id = true ∧ id ∈ (a.pass.models s).map (·.id)

theorem exists_mem_cons_iff {x y : ModelId} {j k : Nat} {zs : List (ModelId × Nat)} :
    (∃ k', (y, k') ∈ (x, k) :: zs ∧ j < k') ↔
      y = x ∧ j < k ∨ ∃ k', (y, k') ∈ zs ∧ j < k' := by
  constructor
  · rintro ⟨k', hmem, hlt⟩
    rcases List.mem_cons.mp hmem with heq | hmem
    · obtain ⟨rfl, rfl⟩ := Prod.mk.inj heq
      exact Or.inl ⟨rfl, hlt⟩
    · exact Or.inr ⟨k', hmem, hlt⟩
  · rintro (⟨rfl, hlt⟩ | ⟨k', hmem, hlt⟩)
    · exact ⟨k, List.mem_cons_self, hlt⟩
    · exact ⟨k', List.mem_cons_of_mem _ hmem, hlt⟩

section

variable {s : Scope} {p : Pass} {frame : Frame} {rest : List Frame} {k : Nat} {ks : List Nat}
  {id : ModelId} {j : Nat}

theorem executed_cons (hf : p.frames = frame :: rest) :
    Executed s ⟨p, k :: ks⟩ id j ↔
      id = frame.id ∧ j < k ∨ Executed s ⟨{ p with frames := rest }, ks⟩ id j := by
  unfold Executed Stage.ids
  rw [hf, List.map_cons, List.zip_cons_cons, exists_mem_cons_iff, or_assoc]
  rfl

theorem executed_enter (id' : ModelId) :
    Executed s ⟨p.enter s id', 0 :: ks⟩ id j ↔ Executed s ⟨p, ks⟩ id j := by
  rw [executed_cons (show (p.enter s id').frames = .ofDeclarations id' _ :: p.frames from rfl)]
  exact or_iff_right fun h => Nat.not_lt_zero j h.2

theorem executed_finish (m : Model) :
    Executed s ⟨p.finish m, ks⟩ id j ↔
      s.schema.isRecord id = true ∧ id = m.id ∨ Executed s ⟨p, ks⟩ id j := by
  have hids : id ∈ ((p.finish m).models s).map (·.id) ↔
      id = m.id ∨ id ∈ (p.models s).map (·.id) := by
    simp only [Pass.models, Pass.finish, List.map_append, List.map_cons, List.map_nil,
      List.mem_append, List.mem_singleton, or_assoc]
    exact or_left_comm
  unfold Executed
  rw [hids, and_or_left]
  exact or_left_comm

theorem executed_settle (hf : p.frames = frame :: rest) :
    Executed s ⟨p.settle s k, (k + 1) :: ks⟩ id j ↔
      Executed s ⟨p, k :: ks⟩ id j ∨ id = frame.id ∧ j = k := by
  have hids : Stage.ids ⟨p.settle s k, (k + 1) :: ks⟩ = frame.id :: rest.map (·.id) := by
    rw [Stage.ids, Pass.frames_ids_settle, hf, List.map_cons]
  have hmodels : ((p.settle s k).models s).map (·.id) = (p.models s).map (·.id) := by
    rw [Pass.models, Pass.models, List.map_append, List.map_append, Pass.finished_ids_settle]
  rw [executed_cons hf]
  unfold Executed
  rw [hids, hmodels, List.zip_cons_cons, exists_mem_cons_iff, Nat.lt_succ_iff_lt_or_eq, and_or_left]
  simp only [or_assoc]
  exact or_congr_right (or_comm.trans or_assoc)

theorem executed_leave (hf : p.frames = frame :: rest) (hr : s.schema.isRecord frame.id = true)
    (hj : id = frame.id → j < k) (tableName : String) :
    Executed s ⟨p.leave tableName, ks⟩ id j ↔ Executed s ⟨p, k :: ks⟩ id j := by
  rw [executed_cons hf, Pass.leave, hf]
  refine (executed_finish _).trans (or_congr_left ?_)
  constructor
  · rintro ⟨-, hid⟩
    exact ⟨hid, hj hid⟩
  · rintro ⟨rfl, -⟩
    exact ⟨hr, rfl⟩

end

/-! ## Exactly the marks that are called for -/

/-- Some slot that is settled calls for the field. -/
def CalledFor (s : Scope) (a : Stage) (t : ModelId) (i : Nat) : Prop :=
  ∃ o j d, Executed s a o j ∧ (s.schema.exported o)[j]? = some d ∧ s.schema.CallsFor o d t i

/-- The marked fields of flat models are those that are called for. -/
def ExactlyMarked (s : Scope) (a : Stage) : Prop :=
  ∀ t, s.schema.isRecord t = true → s.schema.IsFlat t →
    ∀ i, a.pass.Flagged s t i ↔ CalledFor s a t i

section

variable {s : Scope} {p : Pass} {frame : Frame} {rest : List Frame} {k : Nat} {ks : List Nat}
  {d : FieldDeclaration} {t : ModelId} {i : Nat}

theorem calledFor_blank {id : ModelId} (hr : s.schema.isRecord id = false) :
    CalledFor s ⟨p.finish (.blank id), ks⟩ t i ↔ CalledFor s ⟨p, ks⟩ t i := by
  have hexecuted : ∀ o j,
      Executed s ⟨p.finish (.blank id), ks⟩ o j ↔ Executed s ⟨p, ks⟩ o j := by
    intro o j
    refine (executed_finish _).trans (or_iff_right ?_)
    rintro ⟨ho, hid⟩
    rw [show o = id from hid, hr] at ho
    contradiction
  simp only [CalledFor, hexecuted]

theorem calledFor_settle (hf : p.frames = frame :: rest)
    (hd : (s.schema.exported frame.id)[k]? = some d) :
    CalledFor s ⟨p.settle s k, (k + 1) :: ks⟩ t i ↔
      CalledFor s ⟨p, k :: ks⟩ t i ∨ s.schema.CallsFor frame.id d t i := by
  simp only [CalledFor, executed_settle hf]
  constructor
  · rintro ⟨o, j, d', hexecuted | ⟨rfl, rfl⟩, hd', hcalls⟩
    · exact Or.inl ⟨o, j, d', hexecuted, hd', hcalls⟩
    · obtain rfl : d = d' := Option.some.inj (hd.symm.trans hd')
      exact Or.inr hcalls
  · rintro (⟨o, j, d', hexecuted, hd', hcalls⟩ | hcalls)
    · exact ⟨o, j, d', Or.inl hexecuted, hd', hcalls⟩
    · exact ⟨frame.id, k, d, Or.inr ⟨rfl, rfl⟩, hd, hcalls⟩

/-- A model is left with all its slots settled, and none is added by that. -/
theorem calledFor_leave (hf : p.frames = frame :: rest) (hr : s.schema.isRecord frame.id = true)
    (tableName : String) :
    CalledFor s ⟨p.leave tableName, ks⟩ t i ↔
      CalledFor s ⟨p, (s.schema.exported frame.id).length :: ks⟩ t i := by
  have hexecuted : ∀ o j d, (s.schema.exported o)[j]? = some d →
      (Executed s ⟨p.leave tableName, ks⟩ o j ↔
        Executed s ⟨p, (s.schema.exported frame.id).length :: ks⟩ o j) := by
    intro o j d hd
    refine executed_leave hf hr ?_ tableName
    rintro rfl
    exact (List.getElem?_eq_some_iff.mp hd).1
  constructor
  · rintro ⟨o, j, d, hex, hd, hcalls⟩
    exact ⟨o, j, d, (hexecuted o j d hd).mp hex, hd, hcalls⟩
  · rintro ⟨o, j, d, hex, hd, hcalls⟩
    exact ⟨o, j, d, (hexecuted o j d hd).mpr hex, hd, hcalls⟩

/-- What an open model calls for in a flat one is there to be marked, as the model that it refers to is
known. -/
theorem Traced.hasField_of_callsFor (h : Traced s ⟨p, ks⟩) (hf : p.frames = frame :: rest)
    (ht : ∀ u, d.target? = some u → p.knows s u = true) (hr : s.schema.isRecord t = true)
    (hflat : s.schema.IsFlat t) (hcalls : s.schema.CallsFor frame.id d t i) :
    p.HasField s t i := by
  have hknown : t ∈ p.ids s := by
    obtain ⟨hincluded, u, hu, -, rfl | rfl⟩ := holds_of_callsFor hcalls
    · exact Pass.knows_iff.mp (ht t (FieldDeclaration.target?_eq_some_iff.mpr ⟨hincluded, hu⟩))
    · exact List.mem_append_left _ (by simp [hf])
  obtain ⟨⟨t', bs⟩, hbs, rfl⟩ := List.mem_map.mp ((p.ids_flags_perm s).mem_iff.mpr hknown)
  refine ⟨bs, hbs, ?_⟩
  rw [h.length_flags hr hflat hbs]
  exact lt_of_callsFor hcalls

end

theorem Step.exactlyMarked {s : Scope} {q : Demand} {floor : Nat} {a b : Stage}
    (h : Step s q floor a b) (hn : (a.pass.ids s).Nodup) (htraced : Traced s a)
    (ha : ExactlyMarked s a) : ExactlyMarked s b := by
  intro t hr hflat i
  have hbefore := ha t hr hflat i
  cases h with
  | @enter p ks new hdue hnew hrec =>
    simp only [CalledFor, executed_enter]
    exact (p.flagged_enter s new t i).trans hbefore
  | @blank p ks new hdue hnew hrec =>
    exact (p.flagged_blank s new t i).trans (hbefore.trans (calledFor_blank hrec).symm)
  | @settle p frame rest k ks d hf hd ht hfloor =>
    obtain ⟨v, hv, -, heq⟩ := htraced.settle_eq hf hd ht
    have hframe : s.schema.isRecord frame.id = true := (htraced.top hf).1.isRecord
    have hfield : s.schema.CallsFor frame.id d t i → p.HasField s t i :=
      htraced.hasField_of_callsFor hf ht hr hflat
    show (p.settle s k).Flagged s t i ↔ _
    rw [calledFor_settle hf hd, ← hbefore, heq, Pass.Flagged, Pass.flags_modifyTop_settle,
      ← Pass.Flagged, Pass.flagged_markAll hn, mem_declaredMarks_iff hflat hframe hv]
    exact or_congr_right ⟨fun h => h.1, fun h => ⟨h, hfield h⟩⟩
  | @leave p frame rest ks hf hfloor =>
    obtain ⟨htop, -⟩ := htraced.top hf
    have hflagged := Pass.flagged_leave (s := s) hf
      (s.schema.tableName s.singularTables frame.id (if ks = [] then q.instance? else none))
      (fun hid => htop.ofModel_toModel (by rwa [hid]) _) i
    exact hflagged.trans (hbefore.trans (calledFor_leave hf htop.isRecord _).symm)

theorem Occurs.exactlyMarked {s : Scope} {a : Stage} (h : Occurs s a) : ExactlyMarked s a := by
  induction h with
  | start schema singularTables =>
    intro t _ _ i
    refine iff_of_false ?_ ?_
    · rintro ⟨bs, hbs, -⟩
      exact absurd hbs List.not_mem_nil
    · rintro ⟨o, j, d, ⟨k, hk, -⟩ | ⟨-, ho⟩, -⟩
      · exact absurd hk List.not_mem_nil
      · exact absurd ho List.not_mem_nil
  | step hocc hstep ih => exact hstep.exactlyMarked hocc.nodup hocc.traced ih
  | @publish s p hp ih =>
    intro t hr hflat i
    have hexecuted : ∀ o j, Executed (s.publish p) ⟨{}, []⟩ o j ↔ Executed s ⟨p, []⟩ o j := by
      intro o j
      have hids := hp.publish_ids o
      rw [Pass.ids, hp.frames_eq_nil] at hids
      unfold Executed Stage.ids
      rw [hp.frames_eq_nil, Pass.models, Pass.models, List.map_append, List.map_append]
      exact or_congr_right (and_congr_right fun _ => hids)
    have hflagged : Pass.Flagged (s.publish p) {} t i ↔ p.Flagged s t i := by
      rw [Pass.Flagged, Pass.flags_publish hp, ← Pass.Flagged]
    simp only [CalledFor, hexecuted]
    exact hflagged.trans (ih t hr hflat i)

end Resolution

namespace Registry

section

variable {s : Schema} {r : Registry} (hr : Occurs (r.scope s) ⟨{}, []⟩)

include hr

/-- Between two requests, the flags are those of the stored models. -/
theorem flagged_iff {m : Model} (hm : m ∈ r.models) (i : Nat) :
    Pass.Flagged (r.scope s) {} m.id i ↔ ∃ f, m.fields[i]? = some f ∧ f.isForeignKey = true := by
  have hflags : Pass.flags (r.scope s) {} = r.models.map Flags.ofModel := by
    rw [Pass.flags_eq, contents_scope, List.map_map]
    rfl
  rw [Pass.Flagged, hflags]
  constructor
  · rintro ⟨bs, hbs, hflag⟩
    obtain ⟨n, hn, heq⟩ := List.mem_map.mp hbs
    obtain ⟨hid, rfl⟩ := Prod.mk.inj heq
    obtain rfl : n = m := eq_of_id_eq hr hn hm hid
    rw [List.getElem?_map, Option.map_eq_some_iff] at hflag
    exact hflag
  · rintro ⟨f, hf, hflag⟩
    refine ⟨_, List.mem_map.mpr ⟨m, hm, rfl⟩, ?_⟩
    rw [List.getElem?_map, hf, Option.map_some, hflag]

/-- Between two requests, all slots of all stored records are settled. -/
theorem calledFor_iff (t : ModelId) (i : Nat) :
    CalledFor (r.scope s) ⟨{}, []⟩ t i ↔
      ∃ o ∈ r.models, o.isRecord = true ∧ ∃ d ∈ s.exported o.id, s.CallsFor o.id d t i := by
  have hrecord : ∀ o ∈ r.models, o.isRecord = s.isRecord o.id := fun o ho =>
    (hr.traced.of_has ho).isRecord
  constructor
  · rintro ⟨id, j, d, ⟨k, hk, -⟩ | ⟨hid, hmem⟩, hd, hcalls⟩
    · exact absurd hk List.not_mem_nil
    · obtain ⟨o, ho, rfl⟩ := List.mem_map.mp hmem
      exact ⟨o, ho, (hrecord o ho).trans hid, d, List.mem_of_getElem? hd, hcalls⟩
  · rintro ⟨o, ho, hrec, d, hd, hcalls⟩
    obtain ⟨j, hj⟩ := List.getElem?_of_mem hd
    exact ⟨o.id, j, d, Or.inr ⟨(hrecord o ho).symm.trans hrec, List.mem_map_of_mem ho⟩, hj, hcalls⟩

end

/-- After any session, a field of a stored record that embeds no other one is marked as a key if and only
if some field of a stored record calls for it. -/
theorem isForeignKey_session (s : Schema) (c : Config) (qs : List Request) (m : Model)
    (hm : m ∈ (serveAll s { config := c } qs).models) (hr : m.isRecord = true)
    (hflat : s.IsFlat m.id) (i : Nat) :
    (∃ f, m.fields[i]? = some f ∧ f.isForeignKey = true) ↔
      ∃ o ∈ (serveAll s { config := c } qs).models, o.isRecord = true ∧
        ∃ d ∈ s.exported o.id, s.CallsFor o.id d m.id i := by
  have hoccurs := occurs_session s c qs
  have hrecord : s.isRecord m.id = true := (hoccurs.traced.of_has hm).isRecord.symm.trans hr
  rw [← flagged_iff hoccurs hm, ← calledFor_iff hoccurs]
  exact hoccurs.exactlyMarked m.id hrecord hflat i

/-- The second field of an email refers to its user, who calls for it. -/
theorem isForeignKey_session_emails :
    ∃ m ∈ (serveAll emails {} [.get 0]).models, m.id = 1 ∧ m.isRecord = true ∧
      emails.IsFlat m.id ∧
      ((∃ f, m.fields[1]? = some f ∧ f.isForeignKey = true) ↔
        ∃ o ∈ (serveAll emails {} [.get 0]).models, o.isRecord = true ∧
          ∃ d ∈ emails.exported o.id, emails.CallsFor o.id d m.id 1) := by
  have hmodel : ((serveAll emails {} [.get 0]).models[0]?.map fun m => (m.id, m.isRecord)) =
      some (1, true) := by decide +kernel
  obtain ⟨m, hm, heq⟩ := Option.map_eq_some_iff.mp hmodel
  obtain ⟨hid, hr⟩ := Prod.mk.inj heq
  have hmem := List.mem_of_getElem? hm
  have hflat : emails.IsFlat m.id := by
    have htypes : ∀ d ∈ emails.exported 1, d.type = .scalar "i64" := by decide +kernel
    rw [hid]
    rintro d hd ⟨-, -, t, ht, -⟩
    rw [htypes d hd] at ht
    contradiction
  exact ⟨m, hmem, hid, hr, hflat, isForeignKey_session emails {} [.get 0] m hmem hr hflat 1⟩

end Registry
end RecordMapping
