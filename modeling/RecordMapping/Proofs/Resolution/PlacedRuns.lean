import RecordMapping.Proofs.Resolution.Places

/-!
Runs by places.

Work is done at the top: the frame whose slots are settled has all others below it, and their number is
its depth.  Little has to be carried through a run for that.  Each identity occurs once, so that what is
at a site is what is looked for, and the topmost frame follows its declaration, so that its slots are
those that the run is about.  A nested run keeps both, since the pass only grows by it, and the place of
its model is the last one.
-/

namespace RecordMapping
namespace Resolution

/-! ## The topmost frame -/

/-- The slots are those of the declared fields, and the primary key refers to them. -/
structure Frame.Follows (s : Schema) (f : Frame) : Prop where
  slots : List.Forall₂ Slot.Follows (s.exported f.id) f.slots
  primary : ∀ ref ∈ f.primary, ref.slot < f.slots.length

namespace Frame.Follows

variable {s : Schema} {f g : Frame}

theorem start (s : Schema) (id : ModelId) : (Frame.ofDeclarations id (s.exported id)).Follows s := by
  refine ⟨?_, ?_⟩
  · show List.Forall₂ Slot.Follows (s.exported id) ((s.exported id).map Slot.ofDeclaration)
    rw [List.forall₂_map_right_iff, List.forall₂_same]
    exact fun d _ => Slot.Follows.ofDeclaration d
  · intro ref href
    obtain ⟨⟨slot, i⟩, hslot, htag⟩ := List.mem_filterMap.mp href
    simp only [Option.ite_none_right_eq_some, Option.some.injEq] at htag
    rw [← htag.2]
    exact (List.getElem?_eq_some_iff.mp (List.mem_zipIdx_iff_getElem?.mp hslot)).1

theorem exists_slot (h : f.Follows s) {k : Nat} {d : FieldDeclaration}
    (hd : (s.exported f.id)[k]? = some d) :
    ∃ slot, f.slots[k]? = some slot ∧ Slot.Follows d slot := by
  have hk : k < f.slots.length := by
    rw [← h.slots.length_eq]
    exact (List.getElem?_eq_some_iff.mp hd).1
  have hslot := List.getElem?_eq_getElem hk
  exact ⟨_, hslot, getElem?_of_forall₂ h.slots hd hslot⟩

theorem markedInto (h : f.Follows s) (hfg : f.MarkedInto g) : g.Follows s := by
  have hslots : List.Forall₂ Slot.Follows (s.exported f.id) g.slots := by
    refine forall₂_comp ?_ h.slots hfg.slots
    intro d x y hx hxy
    rw [hxy.rest]
    refine ⟨?_, hx.anonymous⟩
    rcases hxy.field with heq | heq
    · rw [heq]
      exact hx.field
    · rw [heq]
      exact hx.field
  rw [hfg.rest]
  exact ⟨hslots, fun ref href => hfg.slots.length_eq ▸ h.primary ref href⟩

theorem conclude (h : f.Follows s) {i : Nat} (hi : i < f.slots.length) (fields : List Field)
    (o : Outcome) : (f.conclude i fields o).Follows s := by
  have hslots := Frame.slots_conclude f i fields o
  refine ⟨?_, ?_⟩
  · rw [Frame.conclude_id, hslots]
    have hmodify : List.Forall₂ (fun x y => ∀ d, Slot.Follows d x → Slot.Follows d y) f.slots
        (f.slots.modify i (Slot.conclude f.primary.isEmpty fields · o)) :=
      forall₂_modify (fun _ _ hx => hx) (fun _ _ hx => hx.conclude _ _ _) _ _
    exact forall₂_comp (fun hx hxy => hxy _ hx) h.slots hmodify
  · intro ref href
    rw [hslots, List.length_modify]
    rw [Frame.primary_conclude] at href
    cases o with
    | column scanner =>
      simp only at href
      split at href
      · rw [List.mem_singleton.mp href]
        exact hi
      · exact h.primary ref href
    | related r => exact h.primary ref href
    | unresolved foreignKey => exact h.primary ref href
    | embedded =>
      rcases List.mem_append.mp href with href | href
      · exact h.primary ref href
      · obtain ⟨⟨x, offset⟩, -, hx⟩ := List.mem_filterMap.mp href
        simp only [Option.ite_none_right_eq_some, Option.some.injEq] at hx
        rw [← hx.2]
        exact hi

end Frame.Follows

namespace Pass

variable {s : Scope} {p : Pass} {frame : Frame} {rest : List Frame}

theorem slotAt?_top (hf : p.frames = frame :: rest) (i : Nat) :
    p.slotAt? rest.length i = frame.slots[i]? := by
  rw [slotAt?, frameAt?_top hf, Option.bind_some]

theorem shows_top (s : Scope) (hf : p.frames = frame :: rest) :
    p.Shows s frame.id (.opened rest.length) := by
  rw [Shows, ← List.map_reverse, List.getElem?_map]
  exact congrArg (Option.map (·.id)) (frameAt?_top hf)

theorem modifyAt?_top (hf : p.frames = frame :: rest) {i : Nat} (hi : i < frame.slots.length)
    (g : Frame → Frame) : p.modifyAt? rest.length i g = some (p.modifyTop g) := by
  have hmodify : ((frame :: rest).reverse.modify rest.length g).reverse = g frame :: rest := by
    rw [List.reverse_cons, List.modify_eq_take_cons_drop (by simp)]
    simp
  rw [modifyAt?_eq (frameAt?_top hf) hi, modifyTop, hf, hmodify]
  rfl

theorem leaveAt?_eq (hf : p.frames = frame :: rest) (hfollows : frame.Follows s.schema)
    (tableName : String) :
    p.leaveAt? rest.length tableName = some (p.leave tableName, p.finished.length) := by
  have herase : ((frame :: rest).reverse.eraseIdx rest.length).reverse = rest := by
    rw [List.reverse_cons, List.eraseIdx_append_of_length_le (by simp)]
    simp
  rw [leaveAt?, frameAt?_top hf, leave_of_frames hf, hf, herase]
  simpa [finish] using hfollows.primary

theorem settle_of_slot {k : Nat} {slot : Slot} (hf : p.frames = frame :: rest)
    (hslot : frame.slots[k]? = some slot) (hignored : slot.field.isIgnored = false)
    {finding : Finding}
    (hfinding : find (p.side s frame.id) (p.side s) slot.field slot.anonymous = finding) :
    p.settle s k = (p.markAll finding.marks).conclude s k
      (slot.field.type.associated?.getD frame.id) finding.outcome := by
  simp [settle, hf, hslot, hignored, ← hfinding]

theorem markAll_top (hf : p.frames = frame :: rest) (ms : List Mark) :
    ∃ frame' rest', (p.markAll ms).frames = frame' :: rest' ∧ frame.MarkedInto frame' ∧
      rest'.length = rest.length := by
  have hframes := (GrowsInto.markAll p ms).frames
  rw [hf, List.forall₂_cons_left_iff] at hframes
  obtain ⟨frame', rest', hframe, hrest, heq⟩ := hframes
  exact ⟨frame', rest', heq, hframe, hrest.length_eq.symm⟩

/-- What is found in the pass is found from the topmost frame and from what can be read of the model
that the field refers to. -/
theorem find_eq_finding (hnodup : (p.ids s).Nodup) (hf : p.frames = frame :: rest) {slot : Slot}
    {v : View} (hv : ∀ t, slot.field.type.associated? = some t → (p.side s t).view = v) :
    find (p.side s frame.id) (p.side s) slot.field slot.anonymous =
      frame.finding s.schema slot v := by
  have hview : p.view? s frame.id = some frame.view :=
    view?_of_mem_frames hnodup (by rw [hf]; exact List.mem_cons_self)
  have howner : p.side s frame.id = ⟨frame.id, s.schema.name frame.id, frame.view⟩ := by
    rw [side, hview, Option.getD_some]
  rw [howner]
  refine find_congr (.refl _) ?_ rfl rfl rfl slot.anonymous
  intro t ht
  rw [← hv t ht]
  exact .refl (p.side s t)

/-- Whatever a finding marks is at one of two sites. -/
theorem shows_of_mem_finding (hf : p.frames = frame :: rest) {slot : Slot} {v : View} {site : Site}
    (hsite : ∀ t, slot.field.type.associated? = some t → p.Shows s t site) {m : Mark}
    (hm : m ∈ (frame.finding s.schema slot v).marks) :
    p.Shows s m.model (if m.model = frame.id then .opened rest.length else site) := by
  by_cases hown : m.model = frame.id
  · rw [if_pos hown, hown]
    exact shows_top s hf
  · rw [if_neg hown]
    rcases has_of_mem_find hm with howner | ⟨t, ht, htarget⟩
    · exact absurd howner.model hown
    · have hid : m.model = t := htarget.model
      rw [hid]
      exact hsite t ht

/-- A slot that is not ignored is settled from a site of the model that its field refers to, or of its
own model if there is none. -/
theorem settleAt?_of_slot {k : Nat} {slot : Slot} {site? : Option Site} {target : ModelId}
    (hnodup : (p.ids s).Nodup) (hf : p.frames = frame :: rest)
    (hslot : frame.slots[k]? = some slot) (hignored : slot.field.isIgnored = false)
    (htarget : slot.field.type.associated?.getD frame.id = target)
    (hshows : p.Shows s target (site?.getD (.opened rest.length))) :
    p.settleAt? s rest.length k site? = some (p.settle s k) := by
  have hrefers : ∀ t, slot.field.type.associated? = some t → target = t := by
    intro t ht
    rw [← htarget, ht, Option.getD_some]
  obtain ⟨v, hv, hside⟩ := hshows.exists_view hnodup
  have hfinding := find_eq_finding (v := v) hnodup hf fun t ht => hrefers t ht ▸ hside
  have hmarks : ∀ m ∈ (frame.finding s.schema slot v).marks,
      p.Shows s m.model
        (if m.model = frame.id then .opened rest.length else site?.getD (.opened rest.length)) ∧
      p.Fits s m := by
    intro m hm
    refine ⟨shows_of_mem_finding hf (fun t ht => hrefers t ht ▸ hshows) hm, ?_⟩
    rw [← hfinding] at hm
    exact fits_of_mem_find hm
  have hmarked := foldlM_markAt? hnodup hmarks
  rw [settle_of_slot hf hslot hignored hfinding, htarget, conclude_eq]
  simp only [settleAt?, frameAt?_top hf, slotAt?_top hf, hslot, hignored, hv, hmarked,
    Option.bind_eq_bind, Option.bind_some, Bool.false_eq_true, if_false]
  -- The target is read again, and by now the marks are set.
  generalize (frame.finding s.schema slot v).marks = ms
  obtain ⟨frame', rest', hf', hframe, hrest⟩ := markAll_top hf ms
  have hnodup' : ((p.markAll ms).ids s).Nodup := by rwa [ids_markAll]
  have hshows' := hshows.of_ids (p.frames_ids_markAll ms) (p.finished_ids_markAll ms)
  obtain ⟨v', hv', hside'⟩ := hshows'.exists_view hnodup'
  have hk : k < frame'.slots.length := by
    rw [← hframe.slots.length_eq]
    exact (List.getElem?_eq_some_iff.mp hslot).1
  rw [hv', Option.bind_some, hside', ← hrest, modifyAt?_top hf' hk]

/-- Settling at the top, from a site of the model that the field refers to, does not fail. -/
theorem settleAt?_eq {k : Nat} {slot : Slot} {site? : Option Site} (hnodup : (p.ids s).Nodup)
    (hf : p.frames = frame :: rest) (hslot : frame.slots[k]? = some slot)
    (hsite : Option.Rel (p.Shows s) slot.target? site?) :
    p.settleAt? s rest.length k site? = some (p.settle s k) := by
  cases hignored : slot.field.isIgnored with
  | true => simp [settleAt?, frameAt?_top hf, slotAt?_top hf, hslot, hignored, settle, hf]
  | false =>
    refine settleAt?_of_slot hnodup hf hslot hignored rfl ?_
    have htarget : slot.target? = slot.field.type.associated? := by
      rw [Slot.target?, hignored, if_neg Bool.false_ne_true]
    rw [htarget] at hsite
    generalize slot.field.type.associated? = target? at hsite
    cases hsite with
    | none => exact shows_top s hf
    | some hshows => exact hshows

end Pass

theorem Slot.Follows.target? {slot : Slot} {d : FieldDeclaration} (h : slot.Follows d) :
    slot.target? = d.target? := by
  rw [Slot.target?, FieldDeclaration.target?, h.isIgnored, h.type]

/-! ## Runs by places -/

/-- The topmost frame is that of the model `id`, whose slots can be settled. -/
structure Pass.Ready (s : Scope) (id : ModelId) (opened : List ModelId) (p : Pass) : Prop where
  nodup : (p.ids s).Nodup
  frames : p.frames.map (·.id) = id :: opened
  follows : ∀ f ∈ p.frames.head?, f.Follows s.schema

namespace Pass.Ready

variable {s : Scope} {id : ModelId} {opened : List ModelId} {p p' : Pass}

theorem enter (hnodup : (p.ids s).Nodup) (hnew : id ∉ p.ids s) :
    (p.enter s id).Ready s id (p.frames.map (·.id)) := by
  refine ⟨List.nodup_cons.mpr ⟨hnew, hnodup⟩, rfl, ?_⟩
  rintro f ⟨⟩
  exact .start s.schema id

theorem exists_top (h : p.Ready s id opened) :
    ∃ frame rest, p.frames = frame :: rest ∧ frame.id = id ∧ rest.length = opened.length ∧
      frame.Follows s.schema := by
  obtain ⟨frame, rest, hf, hid, hrest⟩ := List.map_eq_cons_iff.mp h.frames
  refine ⟨frame, rest, hf, hid, by rw [← hrest, List.length_map], h.follows frame ?_⟩
  rw [hf, List.head?_cons, Option.mem_some]

theorem growsInto (h : p.Ready s id opened) (hgrows : p.GrowsInto p') (hnodup : (p'.ids s).Nodup) :
    p'.Ready s id opened := by
  obtain ⟨frame, rest, hf, rfl, -, hfollows⟩ := h.exists_top
  have hframes := hgrows.frames
  have hids : p.frames.map (·.id) = p'.frames.map (·.id) :=
    map_eq_of_forall₂ (hframes.imp fun _ _ hfg => hfg.id_eq.symm)
  refine ⟨hnodup, hids ▸ h.frames, ?_⟩
  rw [hf, List.forall₂_cons_left_iff] at hframes
  obtain ⟨frame', rest', hframe, -, heq⟩ := hframes
  rw [heq]
  rintro f ⟨⟩
  exact hfollows.markedInto hframe

theorem settle (h : p.Ready s id opened) {k : Nat} {d : FieldDeclaration}
    (hd : (s.schema.exported id)[k]? = some d) : (p.settle s k).Ready s id opened := by
  refine ⟨by rw [ids_settle]; exact h.nodup, by rw [frames_ids_settle, h.frames], ?_⟩
  rcases settle_cases s p k with heq | ⟨ms, fields, o, -, heq⟩
  · rw [heq]
    exact h.follows
  · have hmarked := h.growsInto (.markAll p ms) (by rw [ids_markAll]; exact h.nodup)
    obtain ⟨frame, rest, hf, rfl, -, hfollows⟩ := hmarked.exists_top
    obtain ⟨slot, hslot, -⟩ := hfollows.exists_slot hd
    rw [heq, frames_modifyTop, hf]
    rintro f ⟨⟩
    exact hfollows.conclude (List.getElem?_eq_some_iff.mp hslot).1 fields o

/-- A slot is visited: its target is reached, which may take another resolution, and it is settled. -/
theorem visit? (h : p.Ready s id opened) (h' : p'.Ready s id opened) {k : Nat}
    {d : FieldDeclaration} (hd : (s.schema.exported id)[k]? = some d) {site? : Option Site}
    (hreach : reach? s (id :: opened) p d.target? = some (p', site?))
    (hsite : Option.Rel (p'.Shows s) d.target? site?) :
    visit? s (id :: opened) opened.length p k = some (p'.settle s k) := by
  obtain ⟨frame, rest, hf, rfl, hrest, hfollows⟩ := h.exists_top
  obtain ⟨slot, hslot, hdeclared⟩ := hfollows.exists_slot hd
  obtain ⟨frame', rest', hf', hid', hrest', hfollows'⟩ := h'.exists_top
  obtain ⟨slot', hslot', hdeclared'⟩ := hfollows'.exists_slot (hid' ▸ hd)
  have hslotAt : p.slotAt? opened.length k = some slot := by rw [← hrest, slotAt?_top hf, hslot]
  rw [Resolution.visit?, hslotAt, Option.bind_some, hdeclared.target?, hreach, Option.bind_some,
    ← hrest']
  rw [← hdeclared'.target?] at hsite
  exact settleAt?_eq h'.nodup hf' hslot' hsite

theorem leaveAt? (h : p.Ready s id opened) (tableName : String) :
    p.leaveAt? opened.length tableName = some (p.leave tableName, p.finished.length) := by
  obtain ⟨frame, rest, hf, -, hrest, hfollows⟩ := h.exists_top
  rw [← hrest, leaveAt?_eq hf hfollows]

end Pass.Ready

/-- A model that is known is found at a site of it. -/
theorem exists_reach? {s : Scope} {p : Pass} {target? : Option ModelId} (opened : List ModelId)
    (ht : ∀ t, target? = some t → p.knows s t = true) :
    ∃ site?, reach? s opened p target? = some (p, site?) ∧
      Option.Rel (p.Shows s) target? site? := by
  cases target? with
  | none => exact ⟨none, rfl, .none⟩
  | some t =>
    cases hsite : p.site? s t with
    | none => exact absurd ((ht t rfl).symm.trans (Pass.site?_eq_none_iff.mp hsite)) (by decide)
    | some site =>
      exact ⟨some site, by simp only [reach?, hsite], .some (Pass.shows_of_site? hsite)⟩

theorem Runs.nodup {s : Scope} {task : Task} {p p' : Pass} {calls : List Call}
    (h : Runs s task p calls p') (hnew : task.IsNew s p) (hnodup : (p.ids s).Nodup) :
    (p'.ids s).Nodup := by
  have haccounted := h.accounted hnew
  rw [haccounted.ids.nodup_iff]
  exact haccounted.fresh.nodup hnodup

/-- The task does the same by places, and the place of the model is the last one. -/
def Task.Checks (s : Scope) : Task → Pass → Pass → Prop
  | .model id instance?, p, p' => (p.ids s).Nodup → id ∉ p.ids s →
    resolve? s (p.frames.map (·.id)) id instance? p = some (p', p'.finished.length - 1)
  | .slots ds, p, p' => ∀ id opened, p.Ready s id opened →
    (∀ slot ∈ ds, (s.schema.exported id)[slot.2]? = some slot.1) →
      (ds.map (·.2)).foldlM (visit? s (id :: opened) opened.length) p = some p' ∧
        p'.Ready s id opened

/-- The model that was resolved last can be read at its place. -/
theorem Runs.shows {s : Scope} {id : ModelId} {instance? : Option String} {p p' : Pass}
    {calls : List Call} (h : Runs s (.model id instance?) p calls p') :
    p'.Shows s id (.finished (p'.finished.length - 1)) := by
  obtain ⟨before, m, hfinished, rfl, -⟩ := h.last
  rw [Pass.Shows, hfinished]
  simp

/-- Every run can be done by places.  The induction is on the run: a nested one only makes the pass grow,
so that the frame that was left waiting is ready again, and its model is found where it says. -/
theorem Runs.checks {s : Scope} {task : Task} {p p' : Pass} {calls : List Call}
    (h : Runs s task p calls p') : task.Checks s p p' := by
  induction h with
  | @blank id instance? p hr =>
    intro _ _
    rw [resolve?_of_not_isRecord hr]
    simp [Pass.finish]
  | @record id instance? p p' calls hr hslots ih =>
    intro hnodup hnew
    have ho : id ∉ p.frames.map (·.id) := fun hmem => hnew (List.mem_append_left _ hmem)
    obtain ⟨hfold, hready⟩ := ih id _ (.enter hnodup hnew)
      fun slot hslot => List.mem_zipIdx_iff_getElem?.mp hslot
    rw [List.length_map, List.zipIdx_map_snd, ← List.range_eq_range'] at hfold
    have hleave := hready.leaveAt? (s.schema.tableName s.singularTables id instance?)
    rw [List.length_map] at hleave
    obtain ⟨frame, rest, hf, -⟩ := hready.exists_top
    rw [resolve?_of_isRecord hr ho, hfold, Option.bind_some, hleave, Pass.leave_of_frames hf]
    simp
  | done => exact fun id opened hready _ => ⟨rfl, hready⟩
  | @read d k ds p p' calls ht hrest ih =>
    intro id opened hready hds
    have hd : (s.schema.exported id)[k]? = some d := hds (d, k) List.mem_cons_self
    obtain ⟨site?, hreach, hsite⟩ := exists_reach? (id :: opened) ht
    rw [List.map_cons, List.foldlM_cons, hready.visit? hready hd hreach hsite]
    exact ih id opened (hready.settle hd) fun slot hslot => hds slot (List.mem_cons_of_mem _ hslot)
  | @reach d k ds t p p₁ p' calls calls' ht hnew htarget hrest ih ih' =>
    intro id opened hready hds
    have hd : (s.schema.exported id)[k]? = some d := hds (d, k) List.mem_cons_self
    have hnew' : t ∉ p.ids s := Pass.knows_eq_false_iff.mp hnew
    have hready₁ := hready.growsInto htarget.grows (htarget.nodup hnew' hready.nodup)
    have hresolve := ih hready.nodup hnew'
    rw [hready.frames] at hresolve
    have hreach : reach? s (id :: opened) p d.target? =
        some (p₁, some (.finished (p₁.finished.length - 1))) := by
      simp only [reach?, ht, Pass.site?_eq_none_iff.mpr hnew, hresolve, Option.map_some]
    have hsite : Option.Rel (p₁.Shows s) d.target? (some (.finished (p₁.finished.length - 1))) := by
      rw [ht]
      exact .some htarget.shows
    rw [List.map_cons, List.foldlM_cons, hready.visit? hready₁ hd hreach hsite]
    exact ih' id opened (hready₁.settle hd) fun slot hslot => hds slot (List.mem_cons_of_mem _ hslot)

end Resolution
end RecordMapping
