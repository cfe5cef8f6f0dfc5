import Mathlib.Data.List.Basic
import RecordMapping.Derive.Definition

/-!
The settings of a derived field.

A field has one text for each of its two annotations, joined from all attributes with that path.
Cutting a joined text at its semicolons gives what cutting the single texts gives, since a semicolon
always separates.  So the settings are those of the single texts, and it matters only in which order
the attributes of one path stand.
-/

namespace RecordMapping

namespace Settings

theorem segments_append (a b : String) : segments (a ++ ";" ++ b) = segments a ++ segments b := by
  have htext : (a ++ ";" ++ b).toList = a.toList ++ ';' :: b.toList := by simp
  have hsplit : (a ++ ";" ++ b).toList.splitOn ';' = a.toList.splitOn ';' ++ b.toList.splitOn ';' := by
    rw [htext, List.splitOn_eq_splitOnP, List.splitOn_eq_splitOnP, List.splitOn_eq_splitOnP]
    exact List.splitOnP_append_cons _ _ (beq_self_eq_true ';')
  simp only [segments, hsplit, List.map_append, List.filter_append]

/-- An empty text has one segment, with an empty key. -/
theorem segments_empty : segments "" = [] := by decide +kernel

theorem ofSources_join (a b : String) : ofSources [a ++ ";" ++ b] = ofSources [a, b] := by
  simp only [ofSources, List.flatMap_cons, List.flatMap_nil, List.append_nil, segments_append]

end Settings

namespace Derive

theorem segments_joinTexts (texts : List String) :
    Settings.segments (joinTexts texts) = texts.flatMap Settings.segments := by
  induction texts with
  | nil => exact Settings.segments_empty
  | cons text texts ih =>
    cases texts with
    | nil => simp [joinTexts]
    | cons next rest =>
      rw [joinTexts] at ih ⊢
      rw [String.intercalate_cons_cons, Settings.segments_append, ih, ← List.flatMap_cons]

/-! ## Texts of attributes -/

/-- The text that an attribute with this path gives as an annotation. -/
def Attribute.text? (path : String) (a : Attribute) : Option String :=
  if a.path = [.name path] then
    match a.form with
    | .value [.text text] => some text
    | _ => none
  else none

/-- The texts of the annotations with this path. -/
def FieldItem.texts (f : FieldItem) (path : String) : List String :=
  f.attributes.filterMap (·.text? path)

/-- An attribute that a field can have: an annotation with its text, the mark of an embedded field, or
somebody else's. -/
structure Attribute.IsProper (a : Attribute) : Prop where
  sql : a.path = [.name sqlPath] → ∃ text, a.form = .value [.text text]
  mapping : a.path = [.name mappingPath] →
    (∃ text, a.form = .value [.text text]) ∨
      ∃ count, a.form = .list (List.replicate count [.name "embed"])

/-- What succeeds in two parts does so in each of them. -/
theorem exists_of_bind_eq_ok {ε α β : Type} {x : Except ε α} {f : α → Except ε β} {b : β}
    (h : x >>= f = .ok b) : ∃ a, x = .ok a ∧ f a = .ok b := by
  cases x with
  | error e => cases h
  | ok a => exact ⟨a, rfl, h⟩

theorem exists_text_of_note {code : List Token} {note : String → Notes} {n' : Notes}
    (h : (do return note (← annotationText code)) = (.ok n' : Except DeriveError Notes)) :
    ∃ text, code = [.text text] ∧ n' = note text := by
  obtain ⟨text, htext, hnote⟩ := exists_of_bind_eq_ok h
  refine ⟨text, ?_, (Except.ok.inj hnote).symm⟩
  unfold annotationText at htext
  split at htext
  · rw [Except.ok.inj htext]
  · cases htext

/-- An attribute adds its text to the annotation of its path, and to no other. -/
theorem noteAttribute_texts {n n' : Notes} {a : Attribute} (h : noteAttribute n a = .ok n') :
    n'.sql = n.sql ++ (a.text? sqlPath).toList ∧
      n'.mapping = n.mapping ++ (a.text? mappingPath).toList := by
  have hpaths : ¬ [Token.name mappingPath] = [.name sqlPath] := by decide
  obtain ⟨path, form⟩ := a
  unfold noteAttribute at h
  split at h
  · next hpath =>
    obtain rfl : path = [.name sqlPath] := hpath
    cases form with
    | word => cases h
    | list arguments => cases h
    | value code =>
      obtain ⟨text, rfl, rfl⟩ := exists_text_of_note h
      simp [Attribute.text?, Ne.symm hpaths]
  · next hsql =>
    split at h
    · next hpath =>
      obtain rfl : path = [.name mappingPath] := hpath
      cases form with
      | word => cases h
      | list arguments =>
        obtain ⟨anonymous, -, hn⟩ := exists_of_bind_eq_ok h
        cases hn
        simp [Attribute.text?]
      | value code =>
        obtain ⟨text, rfl, rfl⟩ := exists_text_of_note h
        simp [Attribute.text?, hpaths]
    · next hmapping =>
      cases h
      simp_all [Attribute.text?]

theorem foldlM_noteAttribute_texts {attributes : List Attribute} {n n' : Notes}
    (h : attributes.foldlM noteAttribute n = .ok n') :
    n'.sql = n.sql ++ attributes.filterMap (·.text? sqlPath) ∧
      n'.mapping = n.mapping ++ attributes.filterMap (·.text? mappingPath) := by
  induction attributes generalizing n with
  | nil =>
    obtain rfl : n = n' := Except.ok.inj h
    simp
  | cons a attributes ih =>
    rw [List.foldlM_cons] at h
    obtain ⟨m, hm, hrest⟩ := exists_of_bind_eq_ok h
    obtain ⟨hsql, hmapping⟩ := noteAttribute_texts hm
    obtain ⟨hsql', hmapping'⟩ := ih hrest
    rw [hsql', hmapping', hsql, hmapping]
    simp only [List.filterMap_eq_flatMap_toList, List.flatMap_cons, List.append_assoc, and_self]

/-- Each annotation of a derived field is put together from its texts, in their order. -/
theorem FieldItem.annotation_of_define {f : FieldItem} {d : FieldDefinition} (h : f.define = .ok d) :
    d.annotation =
      { sql := joinTexts (f.texts sqlPath), mapping := joinTexts (f.texts mappingPath) } := by
  obtain ⟨n, hn, h⟩ := exists_of_bind_eq_ok h
  obtain ⟨hsql, hmapping⟩ := foldlM_noteAttribute_texts hn
  cases h
  show Annotation.mk (joinTexts n.sql) (joinTexts n.mapping) = _
  rw [hsql, hmapping]
  rfl

/-! ## Fields that can be derived -/

theorem foldArguments_embed (anonymous : Bool) (count : Nat) :
    ∃ anonymous', foldArguments takeFieldArgument anonymous (List.replicate count [.name "embed"]) =
      .ok anonymous' := by
  induction count generalizing anonymous with
  | zero => exact ⟨anonymous, rfl⟩
  | succ count ih => exact ih true

theorem Attribute.IsProper.noteAttribute {a : Attribute} (h : a.IsProper) (n : Notes) :
    ∃ n', noteAttribute n a = .ok n' := by
  unfold Derive.noteAttribute
  split
  · next hpath =>
    obtain ⟨text, htext⟩ := h.sql hpath
    rw [htext]
    exact ⟨_, rfl⟩
  · split
    · next hpath =>
      rcases h.mapping hpath with ⟨text, htext⟩ | ⟨count, hcount⟩
      · rw [htext]
        exact ⟨_, rfl⟩
      · obtain ⟨anonymous, hanonymous⟩ := foldArguments_embed n.anonymous count
        rw [hcount]
        simp only [hanonymous]
        exact ⟨_, rfl⟩
    · exact ⟨n, rfl⟩

theorem exists_foldlM_noteAttribute {attributes : List Attribute}
    (h : ∀ a ∈ attributes, a.IsProper) (n : Notes) :
    ∃ n', attributes.foldlM noteAttribute n = .ok n' := by
  induction attributes generalizing n with
  | nil => exact ⟨n, rfl⟩
  | cons a attributes ih =>
    obtain ⟨hproper, hrest⟩ := List.forall_mem_cons.mp h
    obtain ⟨m, hm⟩ := hproper.noteAttribute n
    obtain ⟨n', hn'⟩ := ih hrest m
    rw [List.foldlM_cons, hm]
    exact ⟨n', hn'⟩

theorem FieldItem.exists_define {f : FieldItem} (h : ∀ a ∈ f.attributes, a.IsProper) :
    ∃ d, f.define = .ok d := by
  obtain ⟨n, hn⟩ := exists_foldlM_noteAttribute h {}
  rw [FieldItem.define, hn]
  exact ⟨_, rfl⟩

/-- A field with any attributes of the two paths, each with its text, can be derived, and has the
settings of its texts.  Those on its column come first, wherever their attributes stand.  What is
joined with a semicolon is read as if it stood apart. -/
theorem FieldItem.settings_define (f : FieldItem) :
    ((∀ a ∈ f.attributes, a.IsProper) → ∃ d, f.define = .ok d) ∧
    (∀ d, f.define = .ok d →
      d.annotation.settings = Settings.ofSources (f.texts sqlPath ++ f.texts mappingPath)) ∧
    ∀ a b, Settings.ofSources [a ++ ";" ++ b] = Settings.ofSources [a, b] := by
  refine ⟨exists_define, ?_, Settings.ofSources_join⟩
  intro d hd
  have hsettings : d.annotation.settings =
      Settings.ofSources [joinTexts (f.texts sqlPath), joinTexts (f.texts mappingPath)] := by
    rw [annotation_of_define hd]
    rfl
  rw [hsettings]
  simp only [Settings.ofSources, List.flatMap_cons, List.flatMap_nil, List.append_nil,
    segments_joinTexts, List.flatMap_append]

/-- A field with attributes of both paths in turn, an empty text and a key that stands in several of
them. -/
def interleaved : FieldItem :=
  { name? := some "Code", type := "String"
    attributes := [
      { path := [.name "tagmodel"], form := .value [.text "index:c; Unique"] },
      { path := [.name "sql"], form := .value [.text "index:a;"] },
      { path := [.name "tagmodel"], form := .list [[.name "embed"]] },
      { path := [.name "sql"], form := .value [.text ""] },
      { path := [.name "sql"], form := .value [.text "INDEX:b"] }] }

theorem settings_interleaved :
    (∀ a ∈ interleaved.attributes, a.IsProper) ∧
      ∃ d, interleaved.define = .ok d ∧
        d.annotation.settings = ⟨[("INDEX", "a:b:c"), ("UNIQUE", "UNIQUE")]⟩ := by
  have hproper : ∀ a ∈ interleaved.attributes, a.IsProper := by
    simp only [interleaved, List.forall_mem_cons]
    refine ⟨⟨by simp [sqlPath], by simp⟩, ⟨by simp, by simp⟩,
      ⟨by simp [sqlPath], fun _ => .inr ⟨1, rfl⟩⟩, ⟨by simp, by simp⟩, ⟨by simp, by simp⟩, by simp⟩
  obtain ⟨hexists, hsettings, -⟩ := interleaved.settings_define
  obtain ⟨d, hd⟩ := hexists hproper
  refine ⟨hproper, d, hd, ?_⟩
  rw [hsettings d hd]
  decide +kernel

end Derive
end RecordMapping
