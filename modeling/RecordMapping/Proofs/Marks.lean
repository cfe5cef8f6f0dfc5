import Mathlib.Data.List.Forall2
import RecordMapping.Registry

/-!
What a mark can change.

A mark sets one flag of one field.  Two relations say so: a model is marked into another one if at
most such flags were set, and two models are equal apart from marks if `unmarked` makes them equal.
The first has a direction, the second one is for facts that no mark touches.
-/

namespace RecordMapping

/-! ## Fields -/

namespace Field

/-- The field with its flag perhaps set.  It is never taken back. -/
def MarkedInto (f g : Field) : Prop := g = f ∨ g = f.marked

/-- The field as if no relationship referred to it. -/
def unmarked (f : Field) : Field := { f with isForeignKey := false }

theorem MarkedInto.refl (f : Field) : f.MarkedInto f := Or.inl rfl

theorem MarkedInto.trans {f g h : Field} (hfg : f.MarkedInto g) (hgh : g.MarkedInto h) :
    f.MarkedInto h := by
  rcases hfg with rfl | rfl
  · exact hgh
  · rcases hgh with rfl | rfl
    · exact Or.inr rfl
    · exact Or.inr rfl

theorem MarkedInto.unmarked_eq {f g : Field} (h : f.MarkedInto g) : g.unmarked = f.unmarked := by
  rcases h with rfl | rfl <;> rfl

@[simp]
theorem unmarked_unmarked (f : Field) : f.unmarked.unmarked = f.unmarked := rfl

/-- Lists that are equal apart from marks agree in all that does not depend on marks. -/
theorem map_congr_of_unmarked {β : Type} {g : Field → β} (hg : ∀ f, g f.unmarked = g f)
    {xs ys : List Field} (h : xs.map unmarked = ys.map unmarked) : xs.map g = ys.map g := by
  have hmap : ∀ zs : List Field, (zs.map unmarked).map g = zs.map g := by
    intro zs
    rw [List.map_map]
    exact List.map_congr_left fun f _ => hg f
  rw [← hmap xs, h, hmap ys]

theorem map_filter_congr_of_unmarked {β : Type} {p : Field → Bool} {g : Field → β}
    (hp : ∀ f, p f.unmarked = p f) (hg : ∀ f, g f.unmarked = g f) {xs ys : List Field}
    (h : xs.map unmarked = ys.map unmarked) : (xs.filter p).map g = (ys.filter p).map g := by
  have hmap : ∀ zs : List Field, ((zs.map unmarked).filter p).map g = (zs.filter p).map g := by
    intro zs
    rw [List.filter_map, List.map_map, show p ∘ unmarked = p from funext hp]
    exact List.map_congr_left fun f _ => hg f
  rw [← hmap xs, h, hmap ys]

end Field

theorem map_modify_of_semiconj {α β : Type} {g : α → β} {h : α → α} {k : β → β}
    (hg : ∀ x, g (h x) = k (g x)) (l : List α) (i : Nat) :
    (l.modify i h).map g = (l.map g).modify i k := by
  apply List.ext_getElem?
  intro j
  rw [List.getElem?_map, List.getElem?_modify, List.getElem?_modify, List.getElem?_map]
  by_cases hij : i = j
  · cases l[j]? <;> simp [hij, hg]
  · simp [hij]

theorem map_modify_of_comp {α β : Type} {g : α → β} {h : α → α} (hg : ∀ x, g (h x) = g x)
    (l : List α) (i : Nat) : (l.modify i h).map g = l.map g := by
  rw [map_modify_of_semiconj (k := id) hg, List.modify_id]

section

variable {α β γ : Type}

theorem forall₂_comp {R : α → β → Prop} {S : β → γ → Prop} {T : α → γ → Prop}
    (hcomp : ∀ {x y z}, R x y → S y z → T x z) {xs : List α} {ys : List β} {zs : List γ}
    (h : List.Forall₂ R xs ys) (h' : List.Forall₂ S ys zs) : List.Forall₂ T xs zs := by
  induction h generalizing zs with
  | nil =>
    cases h'
    exact .nil
  | cons hxy _ ih =>
    cases h' with
    | cons hyz hrest => exact .cons (hcomp hxy hyz) (ih hrest)

theorem forall₂_modify {R : α → α → Prop} {g : α → α} (hrefl : ∀ x, R x x) (hg : ∀ x, R x (g x))
    (xs : List α) (i : Nat) : List.Forall₂ R xs (xs.modify i g) := by
  rw [List.forall₂_iff_get]
  refine ⟨(List.length_modify ..).symm, ?_⟩
  intro j hj hj'
  simp only [List.get_eq_getElem, List.getElem_modify]
  split
  · exact hg _
  · exact hrefl _

end

/-! ## Models -/

namespace Model

/-- The model with some flags of its fields perhaps set, and all else as it was. -/
structure MarkedInto (m n : Model) : Prop where
  fields : List.Forall₂ Field.MarkedInto m.fields n.fields
  rest : n = { m with fields := n.fields }

def unmarked (m : Model) : Model := { m with fields := m.fields.map Field.unmarked }

theorem MarkedInto.refl (m : Model) : m.MarkedInto m :=
  ⟨List.forall₂_same.mpr fun f _ => Field.MarkedInto.refl f, rfl⟩

theorem MarkedInto.trans {m n o : Model} (hmn : m.MarkedInto n) (hno : n.MarkedInto o) :
    m.MarkedInto o :=
  ⟨forall₂_comp (fun hfg hgh => hfg.trans hgh) hmn.fields hno.fields, by rw [hno.rest, hmn.rest]⟩

theorem MarkedInto.id_eq {m n : Model} (h : m.MarkedInto n) : n.id = m.id := by rw [h.rest]

theorem MarkedInto.mark (m : Model) (i : Nat) : m.MarkedInto (m.mark i) :=
  ⟨forall₂_modify Field.MarkedInto.refl (fun _ => Or.inr rfl) m.fields i, rfl⟩

theorem MarkedInto.unmarked_eq {m n : Model} (h : m.MarkedInto n) : n.unmarked = m.unmarked := by
  have hfields : n.fields.map Field.unmarked = m.fields.map Field.unmarked := by
    have hforall := h.fields
    generalize m.fields = fs, n.fields = gs at hforall
    induction hforall with
    | nil => rfl
    | cons hfg _ ih => rw [List.map_cons, List.map_cons, hfg.unmarked_eq, ih]
  rw [unmarked, unmarked, hfields, h.rest]

@[simp]
theorem unmarked_unmarked (m : Model) : m.unmarked.unmarked = m.unmarked := by
  simp [unmarked]

theorem eq_blank_of_unmarked {m : Model} {id : ModelId} (h : m.unmarked = .blank id) :
    m = .blank id := by
  have hfields : m.fields = [] := List.map_eq_nil_iff.mp (congrArg Model.fields h)
  rw [← h, unmarked, hfields, List.map_nil, ← hfields]

theorem not_mem_fields_of_unmarked {m : Model} {id : ModelId} (h : m.unmarked = .blank id)
    (x : Field) : x ∉ m.fields := by
  rw [eq_blank_of_unmarked h]
  exact List.not_mem_nil

end Model

/-! ## Published marks -/

namespace Registry

theorem markStored_getElem? (models : List Model) (mk : Mark) (i : Nat) :
    (markStored models mk)[i]? =
      models[i]?.map fun x => if x.id = mk.model then x.mark mk.field else x := by
  rw [markStored, List.getElem?_map]

theorem markedInto_of_markStored (mk : Mark) {models : List Model} {i : Nat} {m : Model}
    (hm : models[i]? = some m) :
    ∃ n, (markStored models mk)[i]? = some n ∧ m.MarkedInto n := by
  rw [markStored_getElem?, hm, Option.map_some]
  refine ⟨_, rfl, ?_⟩
  split
  · exact Model.MarkedInto.mark m mk.field
  · exact Model.MarkedInto.refl m

theorem markedInto_of_foldl_markStored (marks : List Mark) {models : List Model} {i : Nat}
    {m : Model} (hm : models[i]? = some m) :
    ∃ n, (marks.foldl markStored models)[i]? = some n ∧ m.MarkedInto n := by
  induction marks generalizing models m with
  | nil => exact ⟨m, hm, Model.MarkedInto.refl m⟩
  | cons mk marks ih =>
    obtain ⟨n, hn, hmn⟩ := markedInto_of_markStored mk hm
    obtain ⟨o, ho, hno⟩ := ih hn
    exact ⟨o, ho, hmn.trans hno⟩

@[simp]
theorem length_markStored (models : List Model) (mk : Mark) :
    (markStored models mk).length = models.length := List.length_map _

theorem length_foldl_markStored (marks : List Mark) (models : List Model) :
    (marks.foldl markStored models).length = models.length := by
  induction marks generalizing models with
  | nil => rfl
  | cons mk marks ih => rw [List.foldl_cons, ih, length_markStored]

/-- What the models are apart from marks stays, and so do their identities. -/
theorem unmarked_foldl_markStored (marks : List Mark) (models : List Model) :
    (marks.foldl markStored models).map Model.unmarked = models.map Model.unmarked := by
  apply List.ext_getElem?
  intro i
  rw [List.getElem?_map, List.getElem?_map]
  cases hm : models[i]? with
  | none =>
    have hlen := length_foldl_markStored marks models
    rw [List.getElem?_eq_none_iff] at hm
    rw [List.getElem?_eq_none (by omega)]
  | some m =>
    obtain ⟨n, hn, hmn⟩ := markedInto_of_foldl_markStored marks hm
    rw [hn, Option.map_some, Option.map_some, hmn.unmarked_eq]

theorem ids_foldl_markStored (marks : List Mark) (models : List Model) :
    (marks.foldl markStored models).map (·.id) = models.map (·.id) := by
  have hids : ∀ ms : List Model, ms.map (·.id) = (ms.map Model.unmarked).map (·.id) := by
    intro ms
    rw [List.map_map]
    rfl
  rw [hids, unmarked_foldl_markStored, ← hids]

end Registry
end RecordMapping
