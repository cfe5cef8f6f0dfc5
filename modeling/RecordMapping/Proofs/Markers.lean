import RecordMapping.Column
import RecordMapping.Proofs.Exclusion
import RecordMapping.Proofs.Findings

/-!
Markers that are given more than once.

A setting without a value has its key as its value, and a reader knows it by comparing the two.  Of a
marker that is given several times the values have been joined with colons by then, so that only a
single one is known as a marker.  Any other number of them reads like a value: as the default value of
a column, and as the name of a join table.
-/

namespace RecordMapping

open Resolution Settings

/-! ## Annotations with markers -/

namespace Settings

/-- The key `n` times, with colons between. -/
def repeated (key : String) (n : Nat) : String := ":".intercalate (List.replicate n key)

theorem repeated_one (key : String) : repeated key 1 = key := String.intercalate_singleton

theorem repeated_add_two (key : String) (n : Nat) :
    repeated key (n + 2) = key ++ ":" ++ repeated key (n + 1) := by
  rw [repeated, List.replicate_succ, List.replicate_succ, String.intercalate_cons_cons,
    ← List.replicate_succ]
  rfl

/-- A colon makes the text longer than the key. -/
theorem repeated_eq_iff {key : String} {n : Nat} (hn : 0 < n) : repeated key n = key ↔ n = 1 := by
  match n with
  | 1 => exact iff_of_true (repeated_one key) rfl
  | n + 2 =>
    refine iff_of_false ?_ (by omega)
    intro heq
    rw [repeated_add_two] at heq
    have hlength := congrArg String.length heq
    rw [String.length_append, String.length_append] at hlength
    have hcolon : ":".length = 1 := rfl
    omega

theorem repeated_ne_empty {key : String} (hkey : key ≠ "") {n : Nat} (hn : 0 < n) :
    repeated key n ≠ "" := by
  match n with
  | 1 => rwa [repeated_one]
  | n + 2 =>
    rw [repeated_add_two]
    simp

/-- A part without a colon has its key as its value. -/
theorem segment_snd_of_not_mem {part : List Char} (h : ':' ∉ part) :
    (segment part).2 = (segment part).1 := by
  rw [segment, Text.cut_of_not_mem h]
  rfl

end Settings

namespace Annotation

/-- What stands between the semicolons of both annotations, in order. -/
def parts (a : Annotation) : List (List Char) :=
  [a.sql, a.mapping].flatMap fun text => text.toList.splitOn ';'

/-- Under a key stand the values that the parts give it. -/
theorem get?_settings (a : Annotation) {key : String} (hkey : normalKey key = key) (hne : key ≠ "") :
    a.settings.get? key = joined? (valuesUnder key (a.parts.map segment)) := by
  rw [settings, ofSources_eq, get?_ofSegments, hkey, valuesUnder_filter hne]
  rfl

/-- The key is given `n` times, and never with a value. -/
structure RepeatsBare (a : Annotation) (key : String) (n : Nat) : Prop where
  bare : ∀ part ∈ a.parts, (segment part).1 = key → ':' ∉ part
  count : a.parts.countP (fun part => (segment part).1 = key) = n

instance (a : Annotation) (key : String) (n : Nat) : Decidable (a.RepeatsBare key n) :=
  decidable_of_iff
    ((∀ part ∈ a.parts, (segment part).1 = key → ':' ∉ part) ∧
      a.parts.countP (fun part => (segment part).1 = key) = n)
    ⟨fun h => ⟨h.1, h.2⟩, fun h => ⟨h.bare, h.count⟩⟩

namespace RepeatsBare

variable {a : Annotation} {key : String} {n : Nat}

theorem valuesUnder_eq (h : a.RepeatsBare key n) :
    valuesUnder key (a.parts.map segment) = List.replicate n key := by
  have hvalues : valuesUnder key (a.parts.map segment) =
      (a.parts.filter fun part => (segment part).1 = key).map fun part => (segment part).2 := by
    simp only [valuesUnder, List.filter_map, List.map_map, Function.comp_def]
  rw [hvalues, List.eq_replicate_iff]
  constructor
  · rw [List.length_map, ← List.countP_eq_length_filter, h.count]
  · intro value hvalue
    obtain ⟨part, hpart, rfl⟩ := List.mem_map.mp hvalue
    obtain ⟨hmem, hkey⟩ := List.mem_filter.mp hpart
    rw [segment_snd_of_not_mem (h.bare part hmem (of_decide_eq_true hkey)), of_decide_eq_true hkey]

theorem get?_settings (h : a.RepeatsBare key n) (hkey : normalKey key = key) (hne : key ≠ "")
    (hn : 0 < n) : a.settings.get? key = some (repeated key n) := by
  have hvalues : List.replicate n key ≠ [] := by
    rw [Ne, List.replicate_eq_nil_iff]
    omega
  rw [a.get?_settings hkey hne, h.valuesUnder_eq, joined?, if_neg hvalues]
  rfl

end RepeatsBare

end Annotation

/-! ## Default values -/

namespace Field

/-- The field has the settings of its annotation, and none if it is ignored. -/
def HasDeclaredSettings (x : Field) : Prop :=
  x.settings = if x.isIgnored = true then {} else x.annotation.settings

theorem hasDeclaredSettings_ofDeclaration (d : FieldDeclaration) :
    (ofDeclaration d).HasDeclaredSettings := by
  simp only [HasDeclaredSettings, ofDeclaration]
  rfl

theorem HasDeclaredSettings.withPath {x : Field} (h : x.HasDeclaredSettings) (path : List String) :
    (x.withPath path).HasDeclaredSettings := h

theorem ComesFrom.hasDeclaredSettings {s : Schema} {id : ModelId} {x : Field} (h : x.ComesFrom s id) :
    x.HasDeclaredSettings := by
  obtain ⟨d, -, hskeleton⟩ := h
  show x.skeleton.HasDeclaredSettings
  rw [hskeleton]
  exact (hasDeclaredSettings_ofDeclaration d).withPath x.path

/-- The definition of the column without a clause for its default value. -/
def plainDefinition (x : Field) (dialect : Dialect) : String :=
  " ".intercalate <|
    [x.columnType dialect] ++
    (if x.isNotNull then ["NOT NULL"] else []) ++
    (if x.isUnique then ["UNIQUE"] else [])

/-- A default value gives one more clause, and nothing else does. -/
theorem columnDefinition_eq (x : Field) (dialect : Dialect) :
    x.columnDefinition dialect =
      x.plainDefinition dialect ++ ((x.defaultValue?.map (" DEFAULT " ++ ·)).getD "") := by
  rw [columnDefinition, plainDefinition]
  cases x.defaultValue? with
  | none => simp
  | some value =>
    have hne : [x.columnType dialect] ++ (if x.isNotNull then ["NOT NULL"] else []) ++
        (if x.isUnique then ["UNIQUE"] else []) ≠ [] := by simp
    have hclause : " DEFAULT " = " " ++ "DEFAULT " := by decide
    rw [Option.map_some, Option.toList_some, String.intercalate_append_of_ne_nil hne (by simp),
      String.intercalate_singleton, Option.map_some, Option.getD_some, hclause]
    simp only [String.append_assoc]

/-- The default value of the column, and the clause that it gives in the definition. -/
structure DefaultsTo (x : Field) (value? : Option String) : Prop where
  value : x.defaultValue? = value?
  definition : ∀ dialect, x.columnDefinition dialect =
    x.plainDefinition dialect ++ ((value?.map (" DEFAULT " ++ ·)).getD "")

theorem HasDeclaredSettings.get?_settings {x : Field} (h : x.HasDeclaredSettings)
    (hincluded : x.isIgnored = false) {key : String} (hkey : normalKey key = key) (hne : key ≠ "")
    {n : Nat} (hn : 0 < n) (hmarks : x.annotation.RepeatsBare key n) :
    x.settings.get? key = some (repeated key n) := by
  rw [h, hincluded, if_neg Bool.false_ne_true, hmarks.get?_settings hkey hne hn]

theorem HasDeclaredSettings.defaultsTo {x : Field} (h : x.HasDeclaredSettings) {n : Nat} (hn : 0 < n)
    (hmarks : x.annotation.RepeatsBare "DEFAULT" n) :
    x.DefaultsTo (if x.isIgnored = true ∨ n = 1 then none else some (repeated "DEFAULT" n)) := by
  have hvalue : x.defaultValue? =
      if x.isIgnored = true ∨ n = 1 then none else some (repeated "DEFAULT" n) := by
    cases hignored : x.isIgnored with
    | true =>
      have hsettings : x.settings = {} := by rw [h, if_pos hignored]
      rw [defaultValue?, hsettings]
      rfl
    | false =>
      have hget := h.get?_settings hignored (by decide +kernel) (by decide) hn hmarks
      have hne : repeated "DEFAULT" n ≠ "" := repeated_ne_empty (by decide) hn
      rw [defaultValue?, nonEmpty?, hget]
      by_cases hone : n = 1
      · simp [hone, repeated_one]
      · have hvalue : repeated "DEFAULT" n ≠ "DEFAULT" := mt (repeated_eq_iff hn).mp hone
        simp [hone, hne, hvalue]
  refine ⟨hvalue, ?_⟩
  intro dialect
  rw [columnDefinition_eq, hvalue]

end Field

/-! ## Join tables -/

/-- The name of a join table that is made of the names of both models. -/
def derivedJoinName (owner target : String) : String :=
  Naming.columnName owner ++ "_" ++ Naming.plural (Naming.columnName target)

theorem joinTableName_repeated {n : Nat} (hn : 0 < n) (owner target : String) :
    joinTableName (repeated "MANY2MANY" n) owner target =
      if n = 1 then derivedJoinName owner target else repeated "MANY2MANY" n := by
  have hne : repeated "MANY2MANY" n ≠ "" := repeated_ne_empty (by decide) hn
  by_cases hone : n = 1
  · subst hone
    simp [joinTableName, repeated_one, derivedJoinName]
  · have hvalue : repeated "MANY2MANY" n ≠ "MANY2MANY" := mt (repeated_eq_iff hn).mp hone
    rw [joinTableName, if_pos ⟨hne, hvalue⟩, if_neg hone]

/-- The relationship is held by a table that joins the two models and has the name that the setting
asks for. -/
structure Relationship.HeldByTable (s : Schema) (setting : String) (owner target : ModelId)
    (r : Relationship) : Prop where
  kind : r.kind = .manyToMany
  table : ∃ table, r.joinTable? = some table ∧ table.source.model = owner ∧
    table.destination.model = target ∧
    table.name = joinTableName setting (s.name owner) (s.name target)

/-- A relationship of a field with several records and a setting for their join table is held by such a
table. -/
def Field.JoinsAs (s : Schema) (id : ModelId) (x : Field) : Prop :=
  ∀ t setting, x.type.role = .many t → s.isRecord t = true →
    x.settings.get? "MANY2MANY" = some setting → ∀ r, x.relationship? = some r →
      ∃ owner, (x.IsOwn → owner = id) ∧ r.HeldByTable s setting owner t

namespace Resolution

section

variable {s : Schema} {known : Model → Prop} {f : Frame} {k i : Nat} {d : FieldDeclaration}
  {slot : Slot} {t : ModelId} {setting : String}

theorem exists_findMany (s : Schema) (owner t : ModelId) (v : View) {x : Field}
    (h : x.settings.get? "MANY2MANY" = some setting) :
    ∃ r, (findMany (s.declaredSide owner) ⟨t, s.name t, v⟩ x).outcome = .related r ∧
      r.HeldByTable s setting owner t := by
  rw [findMany_of_some h]
  exact ⟨_, rfl, start_kind .manyToMany _ x.settings, _, rfl, rfl, rfl, rfl⟩

/-- Once it is settled, a field with several records and a setting for their join table is related. -/
theorem Progress.heldByTable (h : Progress s known f k) (hi : i < k)
    (hd : (s.exported f.id)[i]? = some d) (hslot : f.slots[i]? = some slot)
    (hincluded : slot.field.isIgnored = false) (hrole : slot.field.type.role = .many t)
    (hrecord : s.isRecord t = true) (hsetting : slot.field.settings.get? "MANY2MANY" = some setting) :
    ∃ r, slot.field.relationship? = some r ∧ r.HeldByTable s setting f.id t := by
  have hfollows := h.follows hd hslot
  have hholds : d.target? = some t := by
    rw [FieldDeclaration.target?, ← hfollows.isIgnored, hincluded, FieldType.associated?,
      ← hfollows.type, hrole]
    rfl
  obtain ⟨v, hv, hshows⟩ := h.settled hi hd (hfollows.isIgnored.symm.trans hincluded) hslot
  rw [hholds] at hv
  rw [hfollows.type] at hrole
  rw [hfollows.settings] at hsetting
  have hfinding : declaredFinding s f.id d v =
      findMany (s.declaredSide f.id) ⟨t, s.name t, v⟩ (Field.ofDeclaration d) :=
    find_many hrole (hv.isRecord.trans hrecord) _
  obtain ⟨r, hr, hheld⟩ := exists_findMany s f.id t v hsetting
  refine ⟨r, ?_, hheld⟩
  rw [hshows.relationship, hfinding, hr]
  rfl

theorem Progress.joinsAs (h : Progress s known f k) (hd : (s.exported f.id)[i]? = some d)
    (hslot : f.slots[i]? = some slot) : slot.field.JoinsAs s f.id := by
  intro t setting hrole hrecord hsetting r hr
  by_cases hfresh : k ≤ i ∨ slot.field.isIgnored = true
  · rw [(h.isFresh hslot hfresh).relationship] at hr
    contradiction
  · rw [not_or, Nat.not_le, Bool.not_eq_true] at hfresh
    obtain ⟨r', hr', hheld⟩ :=
      h.heldByTable hfresh.1 hd hslot hfresh.2 hrole hrecord hsetting
    obtain rfl : r' = r := Option.some.inj (hr'.symm.trans hr)
    exact ⟨f.id, fun _ => rfl, hheld⟩

end

/-- A field keeps its join table where it is taken over. -/
theorem hereditary_joinsAs (s : Schema) :
    Hereditary s fun id xs => ∀ x ∈ xs, x.path ≠ [] ∧ x.JoinsAs s id := by
  apply Hereditary.of_field (P := fun id x => x.path ≠ [] ∧ x.JoinsAs s id)
  · exact fun id x => Iff.rfl
  · intro known f k i d slot h hd hslot
    rw [(h.follows hd hslot).path]
    exact ⟨List.cons_ne_nil _ _, h.joinsAs hd hslot⟩
  · rintro id t d x - - - ⟨hpath, hjoins⟩
    refine ⟨List.cons_ne_nil _ _, ?_⟩
    intro target setting hrole hrecord hsetting r hr
    obtain ⟨owner, -, hheld⟩ := hjoins target setting hrole hrecord hsetting r hr
    refine ⟨owner, ?_, hheld⟩
    intro hown
    have hlength : (d.name :: x.path).length = 1 := hown
    simp at hlength
    exact absurd hlength hpath

end Resolution

/-- The field is related by a join table whose name `n` markers ask for.  A copy of it that was taken
before its turn had come may not be related yet. -/
structure Field.JoinsByMarkers (s : Schema) (id target : ModelId) (n : Nat) (x : Field) : Prop where
  related : x.IsOwn → x.hasRelationship = true
  table : ∀ r, x.relationship? = some r → r.kind = .manyToMany ∧
    ∃ table, r.joinTable? = some table ∧ (x.IsOwn → table.source.model = id) ∧
      table.destination.model = target ∧
      table.name = if n = 1 then derivedJoinName (s.name table.source.model) (s.name target)
        else repeated "MANY2MANY" n

namespace Registry

section

variable {s : Schema} {c : Config} {qs : List Request} {m : Model}
  (hm : m ∈ (serveAll s { config := c } qs).models) {x : Field} (hx : x ∈ m.fields)

include hm hx

theorem hasDeclaredSettings : x.HasDeclaredSettings :=
  (field_of_hereditary (hereditary_comesFrom s) (occurs_session s c qs) hm hx).hasDeclaredSettings

theorem hasRelationship_of_isOwn (hown : x.IsOwn) (hincluded : x.isIgnored = false) {t : ModelId}
    {setting : String} (hrole : x.type.role = .many t) (hrecord : s.isRecord t = true)
    (hsetting : x.settings.get? "MANY2MANY" = some setting) : x.hasRelationship = true := by
  cases (occurs_session s c qs).traced.of_has hm with
  | blank _ hblank => exact absurd hx (Model.not_mem_fields_of_unmarked hblank x)
  | @record f tableName hf hmade =>
    obtain ⟨i, d, slot, hd, hslot, -, hxslot⟩ := hf.slot_of_mem hmade hx hown
    have hincluded : x.unmarked.isIgnored = false := hincluded
    have hrole : x.unmarked.type.role = .many t := hrole
    have hsetting : x.unmarked.settings.get? "MANY2MANY" = some setting := hsetting
    show x.unmarked.hasRelationship = true
    rw [hxslot] at hincluded hrole hsetting ⊢
    have hlt := (List.getElem?_eq_some_iff.mp hd).1
    obtain ⟨r, hr, -⟩ := hf.heldByTable hlt hd hslot hincluded hrole hrecord hsetting
    show slot.field.relationship?.isSome = true
    rw [hr]
    rfl

theorem joinsByMarkers {n : Nat} (hn : 0 < n) (hmarks : x.annotation.RepeatsBare "MANY2MANY" n)
    {t : ModelId} (hrole : x.type.role = .many t) (hrecord : s.isRecord t = true)
    (hincluded : x.isIgnored = false) : x.JoinsByMarkers s m.id t n := by
  have hsetting := (hasDeclaredSettings hm hx).get?_settings hincluded (by decide +kernel) (by decide)
    hn hmarks
  have hjoins := (field_of_hereditary (hereditary_joinsAs s) (occurs_session s c qs) hm hx).2
  refine ⟨fun hown => hasRelationship_of_isOwn hm hx hown hincluded hrole hrecord hsetting, ?_⟩
  intro r hr
  obtain ⟨owner, hown, hkind, table, htable, hsource, htarget, hname⟩ :=
    hjoins t _ hrole hrecord hsetting r hr
  refine ⟨hkind, table, htable, fun h => hsource.trans (hown h), htarget, ?_⟩
  rw [hname, hsource, joinTableName_repeated hn]

end

/-- One marker for a default value gives none, and one for a join table gives it a name from both
models.  Several markers, in whatever annotations, give all of them with colons between as the default
value or the name. -/
theorem markers_session (s : Schema) (c : Config) (qs : List Request) :
    (∀ (d : FieldDeclaration) (n : Nat), 0 < n → d.annotation.RepeatsBare "DEFAULT" n →
      (Field.ofDeclaration d).DefaultsTo
        (if d.annotation.isExcluded = true ∨ n = 1 then none else some (repeated "DEFAULT" n))) ∧
    ∀ m ∈ (serveAll s { config := c } qs).models, ∀ x ∈ m.fields, ∀ n, 0 < n →
      (x.annotation.RepeatsBare "DEFAULT" n →
        x.DefaultsTo
          (if x.isIgnored = true ∨ n = 1 then none else some (repeated "DEFAULT" n))) ∧
      (x.annotation.RepeatsBare "MANY2MANY" n → ∀ t, x.type.role = .many t →
        s.isRecord t = true → x.isIgnored = false → x.JoinsByMarkers s m.id t n) := by
  constructor
  · intro d n hn hmarks
    rw [← Field.isIgnored_ofDeclaration]
    exact (Field.hasDeclaredSettings_ofDeclaration d).defaultsTo hn hmarks
  · intro m hm x hx n hn
    refine ⟨(hasDeclaredSettings hm hx).defaultsTo hn, ?_⟩
    intro hmarks t hrole hrecord hincluded
    exact joinsByMarkers hm hx hn hmarks hrole hrecord hincluded

/-- Issues with default values and join tables that are marked, once and twice. -/
def issues : Schema :=
  { declarations :=
      [{ name := "Issue"
         fields :=
          [{ name := "Id", type := .scalar "i64", annotation := { sql := "not null; Default " } },
           { name := "Open", type := .scalar "bool"
             annotation := { sql := "type:tinyint;default", mapping := "default" } },
           { name := "Labels", type := .sequence (.model 1)
             annotation := { mapping := "many2many" } },
           { name := "Tags", type := .sequence (.model 1)
             annotation := { mapping := "many2many;many2many" } }] },
       { name := "Tag", fields := [{ name := "Id", type := .scalar "i64" }] }] }

/-- Number and labels have one marker each. -/
theorem markers_session_issues :
    ∃ m ∈ (serveAll issues {} [.get 0]).models, ∃ x ∈ m.fields, ∃ y ∈ m.fields,
      0 < 1 ∧ x.annotation.RepeatsBare "DEFAULT" 1 ∧ x.DefaultsTo none ∧
        y.annotation.RepeatsBare "MANY2MANY" 1 ∧ y.type.role = .many 1 ∧
        issues.isRecord 1 = true ∧ y.isIgnored = false ∧ y.JoinsByMarkers issues m.id 1 1 := by
  have hmodel : ((serveAll issues {} [.get 0]).models[1]?.bind fun m =>
      m.fields[0]?.bind fun x => m.fields[2]?.map fun y =>
        (x.annotation, y.annotation, y.type, y.isIgnored)) =
      some (⟨"not null; Default ", ""⟩, ⟨"", "many2many"⟩, .sequence (.model 1), false) := by
    decide +kernel
  obtain ⟨m, hm, hfields⟩ := Option.bind_eq_some_iff.mp hmodel
  obtain ⟨x, hx, hfield⟩ := Option.bind_eq_some_iff.mp hfields
  obtain ⟨y, hy, heq⟩ := Option.map_eq_some_iff.mp hfield
  simp only [Prod.mk.injEq] at heq
  obtain ⟨hxmarks, hymarks, htype, hincluded⟩ := heq
  have hdefault : x.annotation.RepeatsBare "DEFAULT" 1 := by
    rw [hxmarks]
    decide +kernel
  have hjoin : y.annotation.RepeatsBare "MANY2MANY" 1 := by
    rw [hymarks]
    decide +kernel
  have hrole : y.type.role = .many 1 := by
    rw [htype]
    rfl
  have hmem := List.mem_of_getElem? hm
  have hxmem := List.mem_of_getElem? hx
  have hymem := List.mem_of_getElem? hy
  obtain ⟨-, hfound⟩ := markers_session issues {} [.get 0]
  have hnone := (hfound m hmem x hxmem 1 Nat.one_pos).1 hdefault
  rw [if_pos (Or.inr rfl)] at hnone
  have hjoins := (hfound m hmem y hymem 1 Nat.one_pos).2 hjoin 1 hrole rfl hincluded
  exact ⟨m, hmem, x, hxmem, y, hymem, Nat.one_pos, hdefault, hnone, hjoin, hrole, rfl, hincluded,
    hjoins⟩

/-- The state of an issue and its tags have two markers, which are taken for values. -/
theorem marker_repeated_issues :
    ∃ m ∈ (serveAll issues {} [.get 0]).models,
      (∃ x ∈ m.fields, x.annotation.RepeatsBare "DEFAULT" 2 ∧
        x.defaultValue? = some "DEFAULT:DEFAULT" ∧
        x.columnDefinition (.plain issues.name) = "tinyint DEFAULT DEFAULT:DEFAULT") ∧
      ∃ y ∈ m.fields, y.annotation.RepeatsBare "MANY2MANY" 2 ∧ y.type.role = .many 1 ∧
        y.relationship?.bind (·.joinTable?.map (·.name)) = some "MANY2MANY:MANY2MANY" ∧
        derivedJoinName "Issue" "Tag" = "issue_tags" := by
  decide +kernel

end Registry
end RecordMapping
