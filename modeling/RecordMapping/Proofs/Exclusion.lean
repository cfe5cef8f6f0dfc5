import RecordMapping.Proofs.Annotations
import RecordMapping.Proofs.Outcomes
import RecordMapping.Proofs.Provenance
import RecordMapping.Proofs.Settings

/-!
Fields that are kept out of the mapping.

A dash keeps a field out if it is all that one of the two annotations says.  An annotation is joined
from the texts of all attributes with its path, so a dash that is not the only text of its path has a
semicolon beside it.  It keeps nothing out then, and is read as a setting that is called `-`.
-/

namespace RecordMapping

open Resolution Text

/-! ## Dashes -/

namespace Text

theorem mem_dropWhile {p : Char → Bool} {c : Char} {cs : List Char} (h : c ∈ cs) (hc : p c = false) :
    c ∈ cs.dropWhile p := by
  rw [← List.takeWhile_append_dropWhile (p := p) (l := cs)] at h
  rcases List.mem_append.mp h with hfront | hrest
  · rw [List.mem_takeWhile_imp hfront] at hc
    contradiction
  · exact hrest

/-- Only blanks are lost at the ends. -/
theorem mem_trimmed {c : Char} {cs : List Char} (h : c ∈ cs) (hc : isBlank c = false) :
    c ∈ trimmed cs := by
  have hfront := mem_dropWhile h hc
  exact List.mem_reverse.mpr (mem_dropWhile (List.mem_reverse.mpr hfront) hc)

/-- A dash, perhaps with blanks around it. -/
def IsDash (text : String) : Prop := trim text = "-"

theorem IsDash.trimmed {text : String} (h : IsDash text) : trimmed text.toList = ['-'] := by
  have hlist := congrArg String.toList h
  rwa [trim, String.toList_ofList] at hlist

theorem IsDash.not_mem {text : String} (h : IsDash text) {c : Char} (hc : isBlank c = false)
    (hne : c ≠ '-') : c ∉ text.toList := by
  intro hmem
  have hdash := mem_trimmed hmem hc
  rw [h.trimmed, List.mem_singleton] at hdash
  exact hne hdash

end Text

namespace Settings

/-- A dash has the form of a key without a value. -/
theorem segments_of_isDash {text : String} (h : IsDash text) : segments text = [("-", "-")] := by
  have hcolon : ':' ∉ text.toList := h.not_mem (by decide) (by decide)
  have hsemicolon : ';' ∉ text.toList := h.not_mem (by decide) (by decide)
  have hkey : normalKey (String.ofList text.toList) = "-" := by
    rw [String.ofList_toList, normalKey, show trim text = "-" from h]
    decide +kernel
  have hsegment : segment text.toList = ("-", "-") := by
    rw [segment, cut_of_not_mem hcolon]
    simp only [hkey, Option.map_none, Option.getD_none]
  rw [segments, List.splitOn_eq_singleton hsemicolon, List.map_singleton, hsegment]
  rfl

theorem contains_dash {parts : List (String × String)} (h : ("-", "-") ∈ parts) :
    (ofSegments parts).contains "-" = true := by
  have hkey : normalKey "-" = "-" := by decide +kernel
  rw [contains, Option.isSome_iff_ne_none, get?_ofSegments, hkey]
  intro hnone
  exact valuesUnder_eq_nil_iff.mp (joined?_eq_none_iff.mp hnone) (List.mem_map_of_mem h)

end Settings

namespace Derive

/-- What separates several texts is no dash. -/
theorem isDash_joinTexts_iff {texts : List String} :
    IsDash (joinTexts texts) ↔ ∃ text, texts = [text] ∧ IsDash text := by
  constructor
  · intro h
    cases texts with
    | nil => exact absurd h (show trim "" ≠ "-" by decide +kernel)
    | cons text rest =>
      cases rest with
      | nil => exact ⟨text, rfl, by rwa [joinTexts, String.intercalate_singleton] at h⟩
      | cons next rest =>
        refine absurd ?_ (h.not_mem (c := ';') (by decide) (by decide))
        rw [joinTexts, String.intercalate_cons_cons]
        simp
  · rintro ⟨text, rfl, h⟩
    rwa [joinTexts, String.intercalate_singleton]

/-! ## Fields of items -/

/-- A dash is the only text of one of the two paths. -/
def FieldItem.IsExcluded (f : FieldItem) : Prop :=
  ∃ path ∈ [sqlPath, mappingPath], ∃ text, f.texts path = [text] ∧ IsDash text

theorem FieldItem.isExcluded_define {f : FieldItem} {d : FieldDefinition} (h : f.define = .ok d) :
    d.annotation.isExcluded = true ↔ f.IsExcluded := by
  have hdashes : d.annotation.isExcluded = true ↔
      IsDash (joinTexts (f.texts sqlPath)) ∨ IsDash (joinTexts (f.texts mappingPath)) := by
    rw [annotation_of_define h, Annotation.isExcluded, Bool.or_eq_true, beq_iff_eq, beq_iff_eq]
    rfl
  rw [hdashes, isDash_joinTexts_iff, isDash_joinTexts_iff]
  simp [IsExcluded]

/-- A dash among the texts of a field is found as a setting wherever it does not keep the field out. -/
theorem FieldItem.contains_dash_define {f : FieldItem} {d : FieldDefinition} (h : f.define = .ok d)
    {path text : String} (hpath : path ∈ [sqlPath, mappingPath]) (htext : text ∈ f.texts path)
    (hdash : IsDash text) : d.annotation.settings.contains "-" = true := by
  have hpart : ∀ texts, text ∈ texts → ("-", "-") ∈ Settings.segments (joinTexts texts) := by
    intro texts hmem
    rw [segments_joinTexts, List.mem_flatMap]
    exact ⟨text, hmem, by rw [Settings.segments_of_isDash hdash]; exact List.mem_singleton_self _⟩
  rw [annotation_of_define h]
  apply Settings.contains_dash
  simp only [List.flatMap_cons, List.flatMap_nil, List.append_nil, List.mem_append]
  rcases List.mem_pair.mp hpath with rfl | rfl
  · exact .inl (hpart _ htext)
  · exact .inr (hpart _ htext)

end Derive

/-! ## Metadata -/

namespace Field

/-- The field has no part in the mapping. -/
structure IsLeftOut (x : Field) : Prop where
  ignored : x.isIgnored = true
  settings : x.settings = {}
  column : x.column = ""
  key : x.isPrimaryKey = false

theorem isLeftOut_ofDeclaration_iff {d : FieldDeclaration} :
    (ofDeclaration d).IsLeftOut ↔ d.annotation.isExcluded = true := by
  constructor
  · intro h
    rw [← isIgnored_ofDeclaration]
    exact h.ignored
  · intro h
    exact ⟨(isIgnored_ofDeclaration d).trans h, settings_of_excluded h, column_of_excluded h,
      isPrimaryKey_of_excluded h⟩

/-- A field that stems from a declaration is ignored if its annotation says so. -/
theorem ComesFrom.isIgnored {s : Schema} {id : ModelId} {x : Field} (h : x.ComesFrom s id) :
    x.isIgnored = x.annotation.isExcluded := by
  obtain ⟨d, -, hskeleton⟩ := h
  show x.skeleton.isIgnored = x.skeleton.annotation.isExcluded
  rw [hskeleton]
  exact isIgnored_ofDeclaration d

theorem IsConsistent.isLeftOut {x : Field} (h : x.IsConsistent) (hignored : x.isIgnored = true) :
    x.IsLeftOut ∧ x.isStored = false ∧ x.relationship? = none := by
  obtain ⟨hcolumn, hsettings, hkey, -⟩ := h.ignored hignored
  have hexclusive := h.exclusive
  rw [outcomes, hignored, List.count_cons_self] at hexclusive
  have hnone : true ∉ [x.isStored, x.hasRelationship] := List.count_eq_zero.mp (by omega)
  have hothers : x.isStored = false ∧ x.relationship? = none := by
    simpa [hasRelationship] using hnone
  exact ⟨⟨hignored, hsettings, hcolumn, hkey⟩, hothers⟩

end Field

namespace Registry

/-- An excluded field is left out of every model that shows it, and no other field is. -/
theorem isLeftOut_iff {s : Schema} {c : Config} {qs : List Request} {m : Model}
    (hm : m ∈ (serveAll s { config := c } qs).models) {x : Field} (hx : x ∈ m.fields) :
    (x.IsLeftOut ∧ x.isStored = false ∧ x.relationship? = none) ↔
      x.annotation.isExcluded = true := by
  have hoccurs := occurs_session s c qs
  have hignored := (field_of_hereditary (hereditary_comesFrom s) hoccurs hm hx).isIgnored
  have hconsistent := field_of_hereditary (hereditary_isConsistent s) hoccurs hm hx
  rw [← hignored]
  exact ⟨fun h => h.1.ignored, hconsistent.isLeftOut⟩

end Registry

namespace Derive

/-- A field with a dash as the only text of one path is left out, whatever its other attributes say and
wherever they stand.  A field with no such dash is part of the mapping, and a dash among several texts
of one path is a setting of it. -/
theorem FieldItem.exclusion_define (f : FieldItem) :
    ((∀ a ∈ f.attributes, a.IsProper) → ∃ d, f.define = .ok d) ∧
    ∀ d, f.define = .ok d →
      (∀ type, (Field.ofDeclaration (d.declaration type)).IsLeftOut ↔ f.IsExcluded) ∧
      (∀ type, ¬ f.IsExcluded →
        (Field.ofDeclaration (d.declaration type)).isIgnored = false ∧
        ∀ path ∈ [sqlPath, mappingPath], ∀ text ∈ f.texts path, IsDash text →
          (Field.ofDeclaration (d.declaration type)).settings.contains "-" = true) ∧
      ∀ s c qs, ∀ m ∈ (Registry.serveAll s { config := c } qs).models, ∀ x ∈ m.fields,
        x.annotation = d.annotation →
          ((x.IsLeftOut ∧ x.isStored = false ∧ x.relationship? = none) ↔ f.IsExcluded) := by
  refine ⟨exists_define, ?_⟩
  intro d hd
  have hexcluded := isExcluded_define hd
  refine ⟨?_, ?_, ?_⟩
  · intro type
    exact Field.isLeftOut_ofDeclaration_iff.trans hexcluded
  · intro type hnot
    have hincluded : d.annotation.isExcluded = false :=
      Bool.eq_false_iff.mpr (mt hexcluded.mp hnot)
    have hsettings : (Field.ofDeclaration (d.declaration type)).settings = d.annotation.settings := by
      simp [Field.ofDeclaration, FieldDefinition.declaration, hincluded]
    refine ⟨(Field.isIgnored_ofDeclaration _).trans hincluded, ?_⟩
    intro path hpath text htext hdash
    rw [hsettings]
    exact contains_dash_define hd hpath htext hdash
  · intro s c qs m hm x hx hannotated
    rw [Registry.isLeftOut_iff hm hx, hannotated]
    exact hexcluded

/-! ## Dashes beside other texts -/

/-- A dash is all that is said of the column, and of the mapping it says that the field is its key. -/
def hidden : FieldItem :=
  { name? := some "Secret", type := "String", visibility := [.name "pub"]
    attributes := [
      { path := [.name "tagmodel"], form := .value [.text "primary_key"] },
      { path := [.name "sql"], form := .value [.text " - "] },
      { path := [.name "tagmodel"], form := .value [.text "size:8"] }] }

theorem isProper_hidden : ∀ a ∈ hidden.attributes, a.IsProper := by
  simp only [hidden, List.forall_mem_cons]
  exact ⟨⟨by simp [sqlPath], by simp⟩, ⟨by simp, by simp [mappingPath]⟩,
    ⟨by simp [sqlPath], by simp⟩, by simp⟩

theorem exclusion_define_hidden :
    (∀ a ∈ hidden.attributes, a.IsProper) ∧ hidden.IsExcluded ∧
      ∃ d, hidden.define = .ok d ∧
        (Field.ofDeclaration (d.declaration (.scalar "String"))).IsLeftOut := by
  have htexts : hidden.texts sqlPath = [" - "] := by decide +kernel
  have hdash : trim " - " = "-" := by decide +kernel
  have hexcluded : hidden.IsExcluded := ⟨sqlPath, List.mem_cons_self, " - ", htexts, hdash⟩
  obtain ⟨hexists, hdefined⟩ := hidden.exclusion_define
  obtain ⟨d, hd⟩ := hexists isProper_hidden
  exact ⟨isProper_hidden, hexcluded, d, hd, ((hdefined d hd).1 (.scalar "String")).mpr hexcluded⟩

/-- The dash is not alone on its path. -/
def exposed : FieldItem :=
  { name? := some "Secret", type := "String", visibility := [.name "pub"]
    attributes := [
      { path := [.name "sql"], form := .value [.text "-"] },
      { path := [.name "sql"], form := .value [.text "not null"] },
      { path := [.name "tagmodel"], form := .value [.text "primary_key"] }] }

/-- Next to another attribute of its path, the one that would exclude the field does not. -/
theorem isIgnored_exposed :
    (∃ a ∈ exposed.attributes, a.text? sqlPath = some "-") ∧
      ∃ d, exposed.define = .ok d ∧ d.annotation = { sql := "-;not null", mapping := "primary_key" } ∧
        let x := Field.ofDeclaration (d.declaration (.scalar "String"))
        x.isIgnored = false ∧ x.column = "secret" ∧ x.isPrimaryKey = true ∧
          x.settings = ⟨[("-", "-"), ("NOT NULL", "NOT NULL"), ("PRIMARY_KEY", "PRIMARY_KEY")]⟩ := by
  refine ⟨⟨_, List.mem_cons_self, by decide +kernel⟩, ?_⟩
  refine ⟨⟨"Secret", "String", ⟨"-;not null", "primary_key"⟩, true, false⟩, by decide +kernel, rfl, ?_⟩
  decide +kernel

end Derive
end RecordMapping
