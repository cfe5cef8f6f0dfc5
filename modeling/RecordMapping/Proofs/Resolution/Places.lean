import RecordMapping.Proofs.Resolution.Growth

/-!
Resolution by places.

A pass finds a frame by its depth and a finished model by its place.  Both are taken before other models
are resolved, and are used after that, when frames have come and gone and more models are finished.
Here every access goes by such a number, or by the place of a field, and fails if there is nothing at
it.  That `resolve?` does not fail, and does what `resolve` does, says that no place was ever stale.
-/

namespace RecordMapping
namespace Resolution

/-- Where the fields of a model can be read.  Depths are counted from the frame at the bottom. -/
inductive Site where
  | opened (depth : Nat)
  | finished (place : Nat)
  | stored (m : Model)

/-- The slot that a field of the primary key belongs to. -/
def PrimaryRef.slot : PrimaryRef → Nat
  | .direct i => i
  | .embedded i _ => i

namespace Pass

/-! ## Access -/

def frameAt? (p : Pass) (depth : Nat) : Option Frame := p.frames.reverse[depth]?

def slotAt? (p : Pass) (depth i : Nat) : Option Slot := (p.frameAt? depth).bind (·.slots[i]?)

def viewAt? (p : Pass) : Site → Option View
  | .opened depth => (p.frameAt? depth).map Frame.view
  | .finished place => p.finished[place]?.map viewModel
  | .stored m => some (viewModel m)

/-- Where a model can be read now, if it can. -/
def site? (s : Scope) (p : Pass) (id : ModelId) : Option Site :=
  ((p.frames.findIdx? (·.id == id)).map fun i => .opened (p.frames.length - 1 - i)).or
    (((p.finished.findIdx? (·.id == id)).map .finished).or
      ((s.stored.find? (·.id == id)).map .stored))

/-- Change slot `i` of the frame at a depth. -/
def modifyAt? (p : Pass) (depth i : Nat) (g : Frame → Frame) : Option Pass := do
  let frame ← p.frameAt? depth
  if i < frame.slots.length then
    some { p with frames := (p.frames.reverse.modify depth g).reverse }
  else none

/-- Mark field `i` of the model at a site. -/
def markAt? (p : Pass) (i : Nat) : Site → Option Pass
  | .opened depth => p.modifyAt? depth i (·.mark i)
  | .finished place => do
    let m ← p.finished[place]?
    if i < m.fields.length then
      some { p with
        finished := p.finished.modify place (·.mark i)
        marks := p.marks ++ [⟨m.id, i⟩] }
    else none
  | .stored m =>
    if i < m.fields.length then some { p with marks := p.marks ++ [⟨m.id, i⟩] } else none

/-! ## Steps -/

/-- Settle slot `i` of the frame at a depth from what can be read at a site. -/
def settleAt? (s : Scope) (p : Pass) (depth i : Nat) (site? : Option Site) : Option Pass := do
  let frame ← p.frameAt? depth
  let slot ← p.slotAt? depth i
  if slot.field.isIgnored then some p
  else
    let site := site?.getD (.opened depth)
    let view ← p.viewAt? site
    let finding := frame.finding s.schema slot view
    let p ← finding.marks.foldlM (fun p m =>
      p.markAt? m.field (if m.model = frame.id then .opened depth else site)) p
    let view ← p.viewAt? site
    p.modifyAt? depth i (·.conclude i view.fields finding.outcome)

/-- End the resolution of the frame at a depth.  The answer comes with the place of the model. -/
def leaveAt? (p : Pass) (depth : Nat) (tableName : String) : Option (Pass × Nat) := do
  let frame ← p.frameAt? depth
  if frame.primary.all (·.slot < frame.slots.length) then
    some ({ p with frames := (p.frames.reverse.eraseIdx depth).reverse }.finish
      (frame.toModel tableName), p.finished.length)
  else none

end Pass

/-- The model that the slot's field refers to, unless the field is ignored. -/
def Slot.target? (slot : Slot) : Option ModelId :=
  if slot.field.isIgnored then none else slot.field.type.associated?

/-- Resolve a model, and answer with its place among the finished ones.  There is no answer for a model
that is open. -/
def resolve? (s : Scope) (opened : List ModelId) (id : ModelId) (instance? : Option String)
    (p : Pass) : Option (Pass × Nat) :=
  if h : s.schema.isRecord id = true ∧ id ∉ opened then
    let depth := p.frames.length
    let visit (p : Pass) (i : Nat) : Option Pass :=
      (p.slotAt? depth i).bind fun slot =>
        let reached? :=
          match slot.target? with
          | none => some (p, none)
          | some target =>
            match p.site? s target with
            | some site => some (p, some site)
            | none =>
              (resolve? s (id :: opened) target none p).map fun (p, place) =>
                (p, some (.finished place))
        reached?.bind fun (p, site?) => p.settleAt? s depth i site?
    let slots? := ((p.enter s id).frameAt? depth).map (·.slots)
    (slots?.bind fun slots => (List.range slots.length).foldlM visit (p.enter s id)).bind
      (·.leaveAt? depth (s.schema.tableName s.singularTables id instance?))
  else if s.schema.isRecord id then none
  else some (p.finish (.blank id), p.finished.length)
termination_by (s.schema.unopened opened).length
decreasing_by exact Schema.length_unopened_lt h.1 h.2

/-! ## The recursion without its loop -/

/-- Find the model that a field refers to, or resolve it. -/
def reach? (s : Scope) (opened : List ModelId) (p : Pass) (target? : Option ModelId) :
    Option (Pass × Option Site) :=
  match target? with
  | none => some (p, none)
  | some target =>
    match p.site? s target with
    | some site => some (p, some site)
    | none =>
      (resolve? s opened target none p).map fun (p, place) => (p, some (.finished place))

def visit? (s : Scope) (opened : List ModelId) (depth : Nat) (p : Pass) (i : Nat) : Option Pass :=
  (p.slotAt? depth i).bind fun slot =>
    (reach? s opened p slot.target?).bind fun (p, site?) => p.settleAt? s depth i site?

theorem Pass.frameAt?_top {p : Pass} {frame : Frame} {rest : List Frame}
    (hf : p.frames = frame :: rest) : p.frameAt? rest.length = some frame := by
  rw [frameAt?, hf, List.getElem?_reverse' (j := 0) rfl, List.getElem?_cons_zero]

theorem resolve?_of_isRecord {s : Scope} {opened : List ModelId} {id : ModelId}
    (hr : s.schema.isRecord id = true) (ho : id ∉ opened) (instance? : Option String) (p : Pass) :
    resolve? s opened id instance? p =
      ((List.range (s.schema.exported id).length).foldlM
        (visit? s (id :: opened) p.frames.length) (p.enter s id)).bind
          (·.leaveAt? p.frames.length (s.schema.tableName s.singularTables id instance?)) := by
  have htop : (p.enter s id).frameAt? p.frames.length =
      some (.ofDeclarations id (s.schema.exported id)) := Pass.frameAt?_top rfl
  have hlength : (Frame.ofDeclarations id (s.schema.exported id)).slots.length =
      (s.schema.exported id).length := List.length_map _
  rw [resolve?, dif_pos ⟨hr, ho⟩, ← hlength]
  show ((((p.enter s id).frameAt? p.frames.length).map (·.slots)).bind fun slots =>
    (List.range slots.length).foldlM (visit? s (id :: opened) p.frames.length) _).bind _ = _
  rw [htop]
  rfl

theorem resolve?_of_not_isRecord {s : Scope} {id : ModelId} (hr : s.schema.isRecord id = false)
    (opened : List ModelId) (instance? : Option String) (p : Pass) :
    resolve? s opened id instance? p = some (p.finish (.blank id), p.finished.length) := by
  rw [resolve?, dif_neg (by simp [hr]), if_neg (by simp [hr])]

/-! ## Sites -/

section

variable {α : Type} {key : α → ModelId} {xs : List α} {i : Nat} {x : α}

/-- Where each identity occurs once, what has it is what is looked for. -/
theorem find?_of_mem (hnodup : (xs.map key).Nodup) (hx : x ∈ xs) :
    xs.find? (key · == key x) = some x := by
  cases hfind : xs.find? (key · == key x) with
  | none => exact absurd (beq_self_eq_true _) (List.find?_eq_none.mp hfind x hx)
  | some y =>
    have hid : key y = key x := by simpa using List.find?_some hfind
    have hy := List.mem_of_find?_eq_some hfind
    exact congrArg some (List.inj_on_of_nodup_map hnodup hy hx hid)

theorem map_ite_eq_modify (hnodup : (xs.map key).Nodup) (hx : xs[i]? = some x) (g : α → α) :
    (xs.map fun y => if key y = key x then g y else y) = xs.modify i g := by
  apply List.ext_getElem?
  intro j
  rw [List.getElem?_map, List.getElem?_modify]
  cases hy : xs[j]? with
  | none => rfl
  | some y =>
    have hplace : key y = key x ↔ i = j := by
      constructor
      · intro hid
        obtain ⟨hi, -⟩ := List.getElem?_eq_some_iff.mp hx
        refine (List.getElem?_inj (by simpa using hi) hnodup).mp ?_
        rw [List.getElem?_map, List.getElem?_map, hx, hy, Option.map_some, Option.map_some, hid]
      · rintro rfl
        rw [Option.some.inj (hy.symm.trans hx)]
    simp only [hplace, Option.map_some, Option.map_eq_map]

end

namespace Pass

/-- The model with this identity is at the site. -/
def Shows (s : Scope) (p : Pass) (id : ModelId) : Site → Prop
  | .opened depth => (p.frames.map (·.id)).reverse[depth]? = some id
  | .finished place => (p.finished.map (·.id))[place]? = some id
  | .stored m => m ∈ s.stored ∧ m.id = id

variable {s : Scope} {p p' : Pass} {id : ModelId} {site : Site}

theorem Shows.of_ids (h : p.Shows s id site)
    (hframes : p'.frames.map (·.id) = p.frames.map (·.id))
    (hfinished : p'.finished.map (·.id) = p.finished.map (·.id)) : p'.Shows s id site := by
  cases site with
  | opened depth => rwa [Shows, hframes]
  | finished place => rwa [Shows, hfinished]
  | stored m => exact h

theorem Shows.exists_frame {depth : Nat} (h : p.Shows s id (.opened depth)) :
    ∃ f ∈ p.frames, p.frameAt? depth = some f ∧ f.id = id := by
  rw [Shows, ← List.map_reverse, List.getElem?_map, Option.map_eq_some_iff] at h
  obtain ⟨f, hf, hid⟩ := h
  exact ⟨f, List.mem_reverse.mp (List.mem_of_getElem? hf), hf, hid⟩

theorem Shows.exists_finished {place : Nat} (h : p.Shows s id (.finished place)) :
    ∃ m ∈ p.models s, p.finished[place]? = some m ∧ m.id = id := by
  rw [Shows, List.getElem?_map, Option.map_eq_some_iff] at h
  obtain ⟨m, hm, hid⟩ := h
  exact ⟨m, List.mem_append_left _ (List.mem_of_getElem? hm), hm, hid⟩

theorem shows_of_site? (h : p.site? s id = some site) : p.Shows s id site := by
  simp only [site?, Option.or_eq_some_iff, Option.map_eq_some_iff, Option.map_eq_none_iff] at h
  rcases h with ⟨i, hi, rfl⟩ | ⟨-, ⟨i, hi, rfl⟩ | ⟨-, m, hm, rfl⟩⟩
  · obtain ⟨hlt, hid, -⟩ := List.findIdx?_eq_some_iff_getElem.mp hi
    rw [Shows, List.getElem?_reverse' (j := i) (by simp; omega), List.getElem?_map,
      List.getElem?_eq_getElem hlt, Option.map_some, beq_iff_eq.mp hid]
  · obtain ⟨hlt, hid, -⟩ := List.findIdx?_eq_some_iff_getElem.mp hi
    rw [Shows, List.getElem?_map, List.getElem?_eq_getElem hlt, Option.map_some, beq_iff_eq.mp hid]
  · exact ⟨List.mem_of_find?_eq_some hm, by simpa using List.find?_some hm⟩

theorem site?_eq_none_iff : p.site? s id = none ↔ p.knows s id = false := by
  simp [site?, knows, view?, List.findIdx?_eq_none_iff, List.find?_eq_none]

theorem Shows.knows (h : p.Shows s id site) : p.knows s id = true := by
  rw [knows_iff, ids]
  cases site with
  | opened depth =>
    exact List.mem_append_left _ (List.mem_reverse.mp (List.mem_of_getElem? h))
  | finished place =>
    exact List.mem_append_right _ (List.mem_append_left _ (List.mem_of_getElem? h))
  | stored m =>
    obtain ⟨hm, rfl⟩ := h
    exact List.mem_append_right _ (List.mem_append_right _ (List.mem_map_of_mem hm))

theorem not_opened_of_mem_models (hnodup : (p.ids s).Nodup) {m : Model} (hm : m ∈ p.models s) :
    m.id ∉ p.frames.map (·.id) := by
  have hmem : m.id ∈ p.finished.map (·.id) ++ s.stored.map (·.id) := by
    rw [← List.map_append]
    exact List.mem_map_of_mem hm
  exact fun hopen => (List.nodup_append.mp hnodup).2.2 _ hopen _ hmem rfl

theorem view?_of_mem_frames (hnodup : (p.ids s).Nodup) {f : Frame} (hf : f ∈ p.frames) :
    p.view? s f.id = some f.view := by
  rw [view?, find?_of_mem (List.nodup_append.mp hnodup).1 hf]
  rfl

theorem view?_of_mem_models (hnodup : (p.ids s).Nodup) {m : Model} (hm : m ∈ p.models s) :
    p.view? s m.id = some (viewModel m) := by
  have hmodels : ((p.models s).map (·.id)).Nodup := by
    rw [models, List.map_append]
    exact (List.nodup_append.mp hnodup).2.1
  rw [view?_of_not_opened s (not_opened_of_mem_models hnodup hm), find?_of_mem hmodels hm]
  rfl

/-- What is at a site is what can be read of the model. -/
theorem Shows.viewAt? (h : p.Shows s id site) (hnodup : (p.ids s).Nodup) :
    p.viewAt? site = p.view? s id := by
  cases site with
  | opened depth =>
    obtain ⟨f, hmem, hf, rfl⟩ := h.exists_frame
    rw [view?_of_mem_frames hnodup hmem, Pass.viewAt?, hf]
    rfl
  | finished place =>
    obtain ⟨m, hmem, hm, rfl⟩ := h.exists_finished
    rw [view?_of_mem_models hnodup hmem, Pass.viewAt?, hm]
    rfl
  | stored m =>
    obtain ⟨hm, rfl⟩ := h
    have hmem : m ∈ p.models s := List.mem_append_right _ hm
    rw [view?_of_mem_models hnodup hmem]
    rfl

theorem Shows.exists_view (h : p.Shows s id site) (hnodup : (p.ids s).Nodup) :
    ∃ v, p.viewAt? site = some v ∧ (p.side s id).view = v := by
  obtain ⟨v, hv⟩ := Option.isSome_iff_exists.mp h.knows
  exact ⟨v, (h.viewAt? hnodup).trans hv, by rw [side, hv, Option.getD_some]⟩

/-! ## Marks at sites -/

theorem modifyAt?_eq {depth i : Nat} {f : Frame} (hf : p.frameAt? depth = some f)
    (hi : i < f.slots.length) (g : Frame → Frame) :
    p.modifyAt? depth i g =
      some { p with frames := (p.frames.reverse.modify depth g).reverse } := by
  simp [modifyAt?, hf, hi]

/-- A mark at the site of a model is the mark that is meant: nothing else has this identity. -/
theorem markAt?_eq (hnodup : (p.ids s).Nodup) {m : Mark} (hsite : p.Shows s m.model site)
    (hm : p.Fits s m) : p.markAt? m.field site = some (p.mark m) := by
  obtain ⟨v, hv, hlt⟩ := hm
  rw [← hsite.viewAt? hnodup] at hv
  obtain ⟨hframes, hothers, -⟩ := List.nodup_append.mp hnodup
  obtain ⟨model, field⟩ := m
  cases site with
  | opened depth =>
    obtain ⟨f, hmem, hf, rfl⟩ := hsite.exists_frame
    rw [Pass.viewAt?, hf] at hv
    obtain rfl := Option.some.inj hv
    have hreversed : (p.frames.reverse.map (·.id)).Nodup := by
      rwa [List.map_reverse, List.nodup_reverse]
    rw [markAt?, modifyAt?_eq hf (by simpa [Frame.view] using hlt),
      mark_of_opened (List.mem_map_of_mem hmem), ← map_ite_eq_modify hreversed hf,
      List.map_reverse, List.reverse_reverse]
  | finished place =>
    obtain ⟨x, hmem, hx, rfl⟩ := hsite.exists_finished
    rw [Pass.viewAt?, hx] at hv
    obtain rfl := Option.some.inj hv
    have hfield : field < x.fields.length := hlt
    rw [mark_of_not_opened (not_opened_of_mem_models hnodup hmem),
      map_ite_eq_modify (List.nodup_append.mp hothers).1 hx]
    simp [markAt?, hx, hfield]
  | stored x =>
    obtain ⟨hx, rfl⟩ := hsite
    have hmem : x ∈ p.models s := List.mem_append_right _ hx
    obtain rfl := Option.some.inj hv
    have hfield : field < x.fields.length := hlt
    have hself : (p.finished.map fun y => if y.id = x.id then y.mark field else y) = p.finished := by
      refine (List.map_congr_left fun y hy => if_neg ?_).trans (List.map_id _)
      exact (List.nodup_append.mp hothers).2.2 _ (List.mem_map_of_mem hy) _ (List.mem_map_of_mem hx)
    rw [mark_of_not_opened (not_opened_of_mem_models hnodup hmem), hself]
    simp [markAt?, hfield]

/-- The marks are set one by one, each at a site of its model. -/
theorem foldlM_markAt? {at? : Mark → Site} {ms : List Mark} (hnodup : (p.ids s).Nodup)
    (hms : ∀ m ∈ ms, p.Shows s m.model (at? m) ∧ p.Fits s m) :
    ms.foldlM (fun p m => p.markAt? m.field (at? m)) p = some (p.markAll ms) := by
  induction ms generalizing p with
  | nil => rfl
  | cons m ms ih =>
    obtain ⟨hsite, hm⟩ := hms m List.mem_cons_self
    rw [List.foldlM_cons, markAt?_eq hnodup hsite hm]
    refine ih ?_ ?_
    · rwa [ids, frames_ids_mark, finished_ids_mark]
    · intro m' hm'
      obtain ⟨hsite', hfits⟩ := hms m' (List.mem_cons_of_mem _ hm')
      exact ⟨hsite'.of_ids (p.frames_ids_mark m) (p.finished_ids_mark m), hfits.mark m⟩

end Pass

end Resolution
end RecordMapping
