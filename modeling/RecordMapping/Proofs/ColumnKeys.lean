import RecordMapping.Proofs.ColumnNames
import RecordMapping.Proofs.Findings
import RecordMapping.Proofs.Provenance

/-!
Columns as keys.

A key is converted before it is compared with a column, and the column is not.  A column that the
conversion leaves as it is names its field, as do all columns that are made from names with small
letters for their capitals.  A column that is given in another spelling does not name its field, and a
relationship that is to be held by this column finds none.
-/

namespace RecordMapping

open Resolution

/-- The field answers to what it is called, as far as the conversion of keys lets it. -/
structure Field.AnswersToItself (x : Field) : Prop where
  name : x.answersTo x.name = true
  column : x.answersTo x.column = true ↔ x.column = x.name ∨ Naming.IsPlain x.column
  derived : x.settings.get? "COLUMN" = none → Naming.HasSmallLetters x.name →
    x.answersTo x.column = true

/-- The field says by which key it is related to the model that it holds. -/
structure Field.Seeks (x : Field) (b : Model) (key : String) : Prop where
  own : x.IsOwn
  included : x.isIgnored = false
  setting : x.settings.nonEmpty? "FOREIGNKEY" = some key
  holds : x.type.Holds b.id
  record : b.isRecord = true

/-- How the columns of the model `a` at place `i`, and of those that it refers to, can be named. -/
structure Model.FindsColumns (models : List Model) (i : Nat) (a : Model) : Prop where
  own : ∀ x ∈ a.fields, x.isIgnored = false → x.AnswersToItself
  first : ∀ column k, a.fieldOfColumn? column = some k → Naming.IsPlain column →
    ∃ l ≤ k, a.fieldAnswering? column = some l
  missed : ∀ column k, a.fieldOfColumn? column = some k →
    (a.fieldAnswering? column = none ↔ ¬ Naming.IsPlain column ∧
      ∀ y ∈ a.fields, y.name ≠ column ∧ y.column ≠ Naming.columnName column)
  ownKey : ∀ x ∈ a.fields, ∀ (j : Nat) (b : Model) (key : String), models[j]? = some b →
    x.Seeks b key → Naming.IsPlain key → x.type.present = .model b.id →
      (∃ y ∈ a.fields, y.IsOwn ∧ y.column = key) → x.hasRelationship = true
  theirKey : ∀ x ∈ a.fields, ∀ (j : Nat) (b : Model) (key : String), models[j]? = some b →
    x.Seeks b key → Naming.IsPlain key →
      (∃ y ∈ b.fields, (y.IsOwn ∨ j < i) ∧ y.column = key) → x.hasRelationship = true

/-! ## Names of fields -/

namespace Field

theorem answersTo_iff {x : Field} {key : String} :
    x.answersTo key = true ↔ x.name = key ∨ x.column = Naming.columnName key := by
  simp [answersTo]

theorem answersTo_of_isPlain {x : Field} {column : String} (hplain : Naming.IsPlain column)
    (h : x.column = column) : x.answersTo column = true := by
  rw [answersTo_iff, Naming.columnName_eq_self_iff.mpr hplain]
  exact Or.inr h

theorem answersToItself {x : Field}
    (h : x.column = (x.settings.get? "COLUMN").getD (Naming.columnName x.name)) :
    x.AnswersToItself := by
  have hcolumn : x.answersTo x.column = true ↔ x.column = x.name ∨ Naming.IsPlain x.column := by
    rw [answersTo_iff, ← Naming.columnName_eq_self_iff, @eq_comm _ x.name, @eq_comm _ x.column
      (Naming.columnName x.column)]
  refine ⟨x.answersTo_name, hcolumn, fun hnone hsmall => hcolumn.mpr (Or.inr ?_)⟩
  rw [h, hnone, Option.getD_none]
  exact Naming.isPlain_columnName hsmall

theorem column_ofDeclaration {d : FieldDeclaration} (h : d.annotation.isExcluded = false) :
    (ofDeclaration d).column =
      ((ofDeclaration d).settings.get? "COLUMN").getD (Naming.columnName (ofDeclaration d).name) := by
  simp [ofDeclaration, h]

theorem AnswersToItself.of_skeleton {x : Field} (h : x.skeleton.AnswersToItself) :
    x.AnswersToItself := ⟨h.name, h.column, h.derived⟩

theorem AnswersToItself.withPath {x : Field} (h : x.AnswersToItself) (path : List String) :
    (x.withPath path).AnswersToItself := ⟨h.name, h.column, h.derived⟩

theorem isIgnored_withPath (x : Field) (path : List String) :
    (x.withPath path).isIgnored = x.isIgnored := rfl

theorem ComesFrom.answersToItself {s : Schema} {id : ModelId} {x : Field} (h : x.ComesFrom s id)
    (hincluded : x.isIgnored = false) : x.AnswersToItself := by
  obtain ⟨d, -, hskeleton⟩ := h
  have hd : x.skeleton.isIgnored = false := hincluded
  rw [hskeleton, isIgnored_withPath, isIgnored_ofDeclaration] at hd
  apply AnswersToItself.of_skeleton
  rw [hskeleton]
  exact (Field.answersToItself (column_ofDeclaration hd)).withPath x.path

end Field

/-! ## Columns of a model -/

namespace Model

theorem exists_fieldAnswering? {m : Model} {column : String} {k : Nat}
    (hk : m.fieldOfColumn? column = some k) (hplain : Naming.IsPlain column) :
    ∃ l ≤ k, m.fieldAnswering? column = some l := by
  refine List.findIdx?_eq_some_le_of_findIdx?_eq_some (fun x _ hx => ?_) hk
  obtain ⟨-, hcolumn⟩ := Bool.and_eq_true_iff.mp hx
  exact Field.answersTo_of_isPlain hplain (beq_iff_eq.mp hcolumn)

theorem fieldAnswering?_eq_none_iff {m : Model} {column : String} {k : Nat}
    (hk : m.fieldOfColumn? column = some k) :
    m.fieldAnswering? column = none ↔ ¬ Naming.IsPlain column ∧
      ∀ y ∈ m.fields, y.name ≠ column ∧ y.column ≠ Naming.columnName column := by
  have hnone : m.fieldAnswering? column = none ↔
      ∀ y ∈ m.fields, y.name ≠ column ∧ y.column ≠ Naming.columnName column := by
    rw [fieldAnswering?, List.findIdx?_eq_none_iff]
    refine forall₂_congr fun y _ => ?_
    rw [← not_or, ← Field.answersTo_iff, Bool.not_eq_true]
  rw [hnone, iff_and_self, ← hnone]
  intro hmissed hplain
  obtain ⟨l, -, hl⟩ := exists_fieldAnswering? hk hplain
  exact Option.some_ne_none l (hl.symm.trans hmissed)

end Model

/-! ## Keys that are found -/

namespace Resolution

section

variable {owner target : Side} {x : Field} {key : String}

theorem heldByTarget_of_locate? {kind : Relationship.Kind} {settings : Settings}
    (h : target.view.locate? key ≠ none) :
    ∃ rel, (heldByTarget kind target settings key).outcome = .related rel := by
  obtain ⟨found, hfound⟩ := Option.ne_none_iff_exists'.mp h
  rw [heldByTarget_of_some hfound]
  exact ⟨_, rfl⟩

variable (hkey : x.settings.nonEmpty? "FOREIGNKEY" = some key)

include hkey

theorem findOne_of_locate?
    (h : owner.view.locate? key ≠ none ∨ target.view.locate? key ≠ none) :
    ∃ rel, (findOne owner target x false).outcome = .related rel := by
  cases hown : owner.view.locate? ((x.settings.nonEmpty? "FOREIGNKEY").getD (x.name ++ "Id")) with
  | some found =>
    rw [findOne_of_some hown]
    exact ⟨_, rfl⟩
  | none =>
    rw [findOne_of_none hown, hkey]
    rw [hkey] at hown
    exact heldByTarget_of_locate? (h.resolve_left fun hne => hne hown)

theorem findMany_of_locate? (h : target.view.locate? key ≠ none) :
    ∃ rel, (findMany owner target x).outcome = .related rel := by
  cases hsetting : x.settings.get? "MANY2MANY" with
  | some setting =>
    rw [findMany_of_some hsetting]
    exact ⟨_, rfl⟩
  | none =>
    rw [findMany_of_none hsetting, hkey]
    exact heldByTarget_of_locate? h

end

/-- A field that holds records and is not replaced by them is related if its key is in the other model, or
in its own one in case it holds one record only. -/
theorem declaredFinding_of_locate? {s : Schema} {owner t : ModelId} {d : FieldDeclaration} {v : View}
    {key : String} (ht : d.target? = some t) (hrecord : s.isRecord t = true)
    (hv : v.isRecord = s.isRecord t) (hplain : ¬ s.Embeds d)
    (hkey : (Field.ofDeclaration d).settings.nonEmpty? "FOREIGNKEY" = some key)
    (h : d.type.present = .model t ∧ (s.declaredView owner).locate? key ≠ none ∨
      v.locate? key ≠ none) :
    ∃ rel, (declaredFinding s owner d v).outcome = .related rel := by
  obtain ⟨hincluded, hholds⟩ := FieldDeclaration.target?_eq_some_iff.mp ht
  cases hholds with
  | one hpresent =>
    rw [declaredFinding_one ⟨hincluded, hpresent, hrecord, hplain⟩ hv]
    exact findOne_of_locate? hkey (h.imp And.right id)
  | many hpresent he =>
    have hrole : (Field.ofDeclaration d).type.role = .many t := by
      simp [Field.ofDeclaration, FieldType.role, hpresent, he]
    rw [declaredFinding, find_many hrole (hv.trans hrecord)]
    refine findMany_of_locate? hkey (h.resolve_left ?_)
    rintro ⟨hmodel, -⟩
    rw [hpresent] at hmodel
    cases hmodel

end Resolution

namespace Registry

section

variable {s : Schema} {r : Registry} (hr : Occurs (r.scope s) ⟨{}, []⟩) {key : String}

include hr

theorem eq_place {i j : Nat} {m : Model} (hi : r.models[i]? = some m) (hj : r.models[j]? = some m) :
    i = j := by
  have hnodup : (r.models.map (·.id)).Nodup := hr.nodup
  have hlt := (List.getElem?_eq_some_iff.mp hi).1
  exact (List.getElem?_inj hlt hnodup.of_map).mp (hi.trans hj.symm)

/-- What a model publishes of its own can be found while the model is open. -/
theorem locate?_declaredView_ne_none {m : Model} (hm : m ∈ r.models) {y : Field}
    (hy : y ∈ m.fields) (hown : y.IsOwn) (hkey : y.answersTo key = true) :
    (s.declaredView m.id).locate? key ≠ none := by
  intro hnone
  have hrec : s.isRecord m.id = true :=
    (hr.traced.of_has hm).isRecord.symm.trans (isRecord_of_mem_fields hr hm hy)
  have hmissed := ownAnswering?_eq_none hr hm hrec hnone
  rw [Model.ownAnswering?, List.find?_eq_none] at hmissed
  exact hmissed y hy (by simp [hown, hkey])

theorem locate?_ne_none_of_seen {i j : Nat} {a b : Model} {v : View} (hb : b ∈ r.models)
    (hseen : Model.Seen s i a j b v) {y : Field} (hy : y ∈ b.fields) (hshown : y.IsOwn ∨ j < i)
    (hkey : y.answersTo key = true) : v.locate? key ≠ none := by
  by_cases hlt : j < i
  · intro hnone
    have href := congrFun (hseen.locate?_of_lt hlt) key
    simp only [hnone, Option.map_none] at href
    have hmissed := Option.map_eq_none_iff.mp href.symm
    rw [Model.answering?_eq, List.find?_eq_none] at hmissed
    exact hmissed y hy hkey
  · cases hseen with
    | ended hended => exact absurd hended hlt
    | opened _ _ _ hv =>
      rw [hv.locate?]
      exact locate?_declaredView_ne_none hr hb hy (hshown.resolve_right hlt) hkey

/-- A field whose key is there is related. -/
theorem hasRelationship_of_seeks {i j : Nat} {a b : Model} (ha : r.models[i]? = some a)
    (hb : r.models[j]? = some b) {x : Field} (hx : x ∈ a.fields) (hseeks : x.Seeks b key)
    (h : x.type.present = .model b.id ∧ (∃ y ∈ a.fields, y.IsOwn ∧ y.answersTo key = true) ∨
      ∃ y ∈ b.fields, (y.IsOwn ∨ j < i) ∧ y.answersTo key = true) :
    x.hasRelationship = true := by
  obtain ⟨d, hfound⟩ := exists_foundAs hr ha hx hseeks.own
  have hincluded : x.skeleton.isIgnored = false := hseeks.included
  rw [hfound.skeleton, Field.isIgnored_ofDeclaration] at hincluded
  have hholds : d.type.Holds b.id := hfound.type ▸ hseeks.holds
  have ht := FieldDeclaration.target?_eq_some_iff.mpr ⟨hincluded, hholds⟩
  obtain ⟨k, c, v, hc, hid, hseen, hv, hrel⟩ := hfound.seen b.id ht
  have hbmem := List.mem_of_getElem? hb
  obtain rfl : c = b := eq_of_id_eq hr (List.mem_of_getElem? hc) hbmem hid
  obtain rfl : k = j := eq_place hr hc hb
  have hrecord : s.isRecord c.id = true :=
    (hr.traced.of_has hbmem).isRecord.symm.trans hseeks.record
  have hrelated : ∃ rel, (declaredFinding s a.id d v).outcome = .related rel := by
    apply declaredFinding_of_locate? ht hrecord hv hfound.plain (hfound.settings ▸ hseeks.setting)
    rw [← hfound.type]
    refine h.imp (And.imp_right ?_) ?_
    · rintro ⟨y, hy, hown, hkey⟩
      exact locate?_declaredView_ne_none hr (List.mem_of_getElem? ha) hy hown hkey
    · rintro ⟨y, hy, hshown, hkey⟩
      exact locate?_ne_none_of_seen hr hbmem hseen hy hshown hkey
  obtain ⟨rel, houtcome⟩ := hrelated
  rw [Field.hasRelationship, hrel, houtcome]
  rfl

end

/-- A declared field answers to its name, and to its column if the conversion of keys leaves it as it is.
After any session, such a column finds a field of its model, and a key that is set to such a column
relates its field: to one record by a column of either model, to several by a column of the other.  What
a model takes over can be a key once the model has ended. -/
theorem findsColumns_session (s : Schema) (c : Config) (qs : List Request) :
    (∀ d : FieldDeclaration, d.annotation.isExcluded = false →
      (Field.ofDeclaration d).AnswersToItself) ∧
    ∀ (i : Nat) (a : Model), (serveAll s { config := c } qs).models[i]? = some a →
      a.FindsColumns (serveAll s { config := c } qs).models i := by
  refine ⟨fun d hd => Field.answersToItself (Field.column_ofDeclaration hd), fun i a ha => ?_⟩
  have hoccurs := occurs_session s c qs
  generalize serveAll s { config := c } qs = r at ha hoccurs
  have hmem := List.mem_of_getElem? ha
  refine ⟨?_, fun _ _ => Model.exists_fieldAnswering?, fun _ _ => Model.fieldAnswering?_eq_none_iff,
    ?_, ?_⟩
  · intro x hx hincluded
    have hrec := isRecord_of_mem_fields hoccurs hmem hx
    exact ((hereditary_comesFrom s).of_mem hoccurs hmem hrec x hx).answersToItself hincluded
  · rintro x hx j b key hb hseeks hplain hone ⟨y, hy, hown, hcolumn⟩
    refine hasRelationship_of_seeks hoccurs ha hb hx hseeks (Or.inl ⟨hone, y, hy, hown, ?_⟩)
    exact Field.answersTo_of_isPlain hplain hcolumn
  · rintro x hx j b key hb hseeks hplain ⟨y, hy, hshown, hcolumn⟩
    refine hasRelationship_of_seeks hoccurs ha hb hx hseeks (Or.inr ⟨y, hy, hshown, ?_⟩)
    exact Field.answersTo_of_isPlain hplain hcolumn

/-- Invoices with a payer and a shipper, both of them by a column of the invoice. -/
def invoices : Schema :=
  let number : FieldType := .scalar "i64"
  { declarations :=
      [{ name := "Invoice"
         fields :=
          [{ name := "Id", type := number },
           { name := "Payer", type := .model 1, annotation := { mapping := "foreignkey:F_payer" } },
           { name := "PayerRef", type := number, annotation := { mapping := "column:F_payer" } },
           { name := "Shipper", type := .model 1
             annotation := { mapping := "foreignkey:shipped_by" } },
           { name := "Courier", type := number, annotation := { mapping := "column:shipped_by" } }] },
       { name := "Person", fields := [{ name := "Id", type := number }] }] }

theorem findsColumns_session_invoices :
    ∃ a, (serveAll invoices {} [.get 0]).models[1]? = some a ∧
      a.fieldOfColumn? "shipped_by" = some 4 ∧ Naming.IsPlain "shipped_by" ∧
      (∃ l ≤ 4, a.fieldAnswering? "shipped_by" = some l) ∧
      a.FindsColumns (serveAll invoices {} [.get 0]).models 1 := by
  have hmodel : ((serveAll invoices {} [.get 0]).models[1]?.map
      (·.fieldOfColumn? "shipped_by")) = some (some 4) := by decide +kernel
  obtain ⟨a, ha, hk⟩ := Option.map_eq_some_iff.mp hmodel
  have hplain : Naming.IsPlain "shipped_by" := Naming.columnName_eq_self_iff.mp (by decide +kernel)
  have hfinds := (findsColumns_session invoices {} [.get 0]).2 1 a ha
  exact ⟨a, ha, hk, hplain, hfinds.first _ _ hk hplain, hfinds⟩

/-- The column of the payer's key does not name its field, and the payer is left without a relationship. -/
theorem not_answersTo_column_invoices :
    ∃ a ∈ (serveAll invoices {} [.get 0]).models, ∃ x ∈ a.fields,
      x.isIgnored = false ∧ x.column = "F_payer" ∧ x.answersTo "F_payer" = false ∧
      a.fieldOfColumn? "F_payer" = some 2 ∧ a.fieldAnswering? "F_payer" = none ∧
      a.unresolved = [⟨"Payer", "F_payer"⟩] := by
  decide +kernel

end Registry
end RecordMapping
