import RecordMapping.Proofs.Embedding
import RecordMapping.Proofs.Findings
import RecordMapping.Proofs.Resolution.Nesting

/-!
The columns of join tables.

Unless the field names its keys, both columns of a join table are named after the models that the
table joins.  Two models can lead to one column: a model joined to itself does, and so do models
whose names the conversion to columns does not keep apart.  The two columns then are one.
-/

namespace RecordMapping

open Resolution

/-! ## Columns for keys -/

namespace Naming

open Text

/-- Whether a word starts behind the character, at a capital with a small letter behind it. -/
def endsWord (c : Char) : Bool := isLowercase c || c.isDigit || isUppercase c

/-- What stands before the last word of a key's column, if the key is named after the type. -/
def keyStem (typeName : String) : String :=
  columnName typeName ++ if typeName.toList.getLast?.any endsWord then "_" else ""

/-- A text is cut into words on each side of a place, unless a small letter follows the place. -/
theorem separated_append (before : Option Char) (cs ds : List Char)
    (h : ds.head?.any isLowercase = false) :
    separated before (cs ++ ds) = separated before cs ++ separated (cs.getLast?.or before) ds := by
  induction cs generalizing before with
  | nil => rfl
  | cons c rest ih =>
    have hword : startsWord before c (rest ++ ds).head? = startsWord before c rest.head? := by
      cases rest with
      | nil =>
        unfold startsWord
        rw [List.nil_append, h]
        rfl
      | cons d rest => rfl
    have hlast : (c :: rest).getLast?.or before = rest.getLast?.or (some c) := by
      rw [List.getLast?_cons]
      cases rest.getLast? <;> rfl
    rw [List.cons_append, separated, separated, hword, ih, hlast]
    simp only [List.append_assoc]

theorem separated_Id (before : Option Char) :
    separated before ['I', 'd'] = (if before.any endsWord then ['_'] else []) ++ ['i', 'd'] := by
  have hcapital : isUppercase 'I' = true := by decide +kernel
  have hsmall : isUppercase 'd' = false ∧ isLowercase 'd' = true := by decide +kernel
  have hlowered : lowered 'I' = ['i'] ∧ lowered 'd' = ['d'] := by decide +kernel
  have hword : startsWord before 'I' (some 'd') = before.any endsWord := by
    cases before with
    | none => simp [startsWord]
    | some b => simp [startsWord, endsWord, hcapital, hsmall]
  have hrest : startsWord (some 'I') 'd' none = false := by simp [startsWord, hsmall]
  simp [separated, hword, hrest, hlowered]

theorem columnName_append_Id (typeName : String) :
    columnName (typeName ++ "Id") = keyStem typeName ++ "id" := by
  apply String.toList_inj.mp
  have hid : ("Id" : String).toList = ['I', 'd'] := rfl
  rw [toList_columnName, String.toList_append, hid, separated_append _ _ _ (by decide +kernel),
    separated_Id, Option.or_none, keyStem, String.toList_append, String.toList_append,
    toList_columnName, List.append_assoc]
  split <;> rfl

end Naming

/-! ## Join tables with default names -/

/-- The table joins the model `id`, for a field that the model declares, to the model that the field
holds, and has a column named after each of them. -/
structure JoinTable.IsDefault (s : Schema) (id : ModelId) (x : Field) (table : JoinTable) :
    Prop where
  source : x.IsOwn → table.source.model = id
  destination : x.type.Holds table.destination.model
  columns : table.columns =
    [Naming.columnName (s.name table.source.model ++ "Id"),
      Naming.columnName (s.name table.destination.model ++ "Id")]

theorem JoinTable.IsDefault.nodup_iff {s : Schema} {id : ModelId} {x : Field} {table : JoinTable}
    (h : table.IsDefault s id x) :
    table.columns.Nodup ↔
      Naming.keyStem (s.name table.source.model) ≠
        Naming.keyStem (s.name table.destination.model) := by
  rw [h.columns, Naming.columnName_append_Id, Naming.columnName_append_Id]
  simp

/-- If the field takes part in a join and names neither key, the table has default columns. -/
def Field.JoinsByDefault (s : Schema) (id : ModelId) (x : Field) : Prop :=
  ∀ r, x.relationship? = some r → r.kind = .manyToMany →
    x.settings.nonEmpty? "FOREIGNKEY" = none →
      x.settings.nonEmpty? "ASSOCIATIONFOREIGNKEY" = none →
        ∃ table, r.joinTable? = some table ∧ table.IsDefault s id x

theorem Field.joinsByDefault_unmarked_iff {s : Schema} {id : ModelId} (x : Field) :
    x.unmarked.JoinsByDefault s id ↔ x.JoinsByDefault s id := by
  constructor
  · intro h r hr hkind hkey hassociation
    obtain ⟨table, htable, hdefault⟩ := h r hr hkind hkey hassociation
    exact ⟨table, htable, hdefault.source, hdefault.destination, hdefault.columns⟩
  · intro h r hr hkind hkey hassociation
    obtain ⟨table, htable, hdefault⟩ := h r hr hkind hkey hassociation
    exact ⟨table, htable, hdefault.source, hdefault.destination, hdefault.columns⟩

namespace Resolution

theorem Progress.joinsByDefault {s : Schema} {known : Model → Prop} {f : Frame} {k i : Nat}
    {d : FieldDeclaration} {slot : Slot} (h : Progress s known f k)
    (hd : (s.exported f.id)[i]? = some d) (hslot : f.slots[i]? = some slot) :
    slot.field.JoinsByDefault s f.id := by
  intro r hr hkind hkey hassociation
  obtain ⟨t, v, ht, hfound⟩ := h.foundBy hd hslot hr
  obtain ⟨setting, hjoin⟩ := hfound.heldByJoinTable hkind
  have htype := (h.follows hd hslot).type
  rw [← Outcome.related.inj hjoin]
  refine ⟨_, rfl, fun _ => rfl, htype ▸ ht, ?_⟩
  rw [Settings.theirKey, hkey, hassociation]
  rfl

/-- A field keeps its table where it is taken over, and is no field of the model's own there. -/
theorem hereditary_joinsByDefault (s : Schema) :
    Hereditary s fun id xs => ∀ x ∈ xs, x.path ≠ [] ∧ x.JoinsByDefault s id := by
  apply Hereditary.of_field (P := fun id x => x.path ≠ [] ∧ x.JoinsByDefault s id)
  · exact fun id x => and_congr_right fun _ => x.joinsByDefault_unmarked_iff
  · intro known f k i d slot h hd hslot
    rw [(h.follows hd hslot).path]
    exact ⟨List.cons_ne_nil _ _, h.joinsByDefault hd hslot⟩
  · rintro id t d x - - - ⟨hpath, hjoins⟩
    refine ⟨List.cons_ne_nil _ _, ?_⟩
    intro r hr hkind hkey hassociation
    obtain ⟨table, htable, hdefault⟩ := hjoins r hr hkind hkey hassociation
    refine ⟨table, htable, ?_, hdefault.destination, hdefault.columns⟩
    intro hown
    have hlength : (d.name :: x.path).length = 1 := hown
    simp at hlength
    exact absurd hlength hpath

end Resolution

namespace Registry

/-- After any session, a join table of a field that names neither key has two different columns
exactly if the names of the two models that it joins stay apart as stems of columns. -/
theorem columns_session (s : Schema) (c : Config) (qs : List Request) (a : Model)
    (ha : a ∈ (serveAll s { config := c } qs).models) (x : Field) (hx : x ∈ a.fields)
    (rel : Relationship) (hrel : x.relationship? = some rel) (hkind : rel.kind = .manyToMany)
    (hkey : x.settings.nonEmpty? "FOREIGNKEY" = none)
    (hassociation : x.settings.nonEmpty? "ASSOCIATIONFOREIGNKEY" = none) :
    ∃ table, rel.joinTable? = some table ∧ table.IsDefault s a.id x ∧
      (table.columns.Nodup ↔
        Naming.keyStem (s.name table.source.model) ≠
          Naming.keyStem (s.name table.destination.model)) := by
  have hoccurs := occurs_session s c qs
  have hrec := isRecord_of_mem_fields hoccurs ha hx
  obtain ⟨-, hjoins⟩ := (hereditary_joinsByDefault s).of_mem hoccurs ha hrec x hx
  obtain ⟨table, htable, hdefault⟩ := hjoins rel hrel hkind hkey hassociation
  exact ⟨table, htable, hdefault, hdefault.nodup_iff⟩

/-- The join table of articles and tags has a column for each. -/
theorem columns_session_articles :
    ∃ a ∈ (serveAll articles {} [.get 0]).models, ∃ x ∈ a.fields,
      ∃ rel, x.relationship? = some rel ∧ rel.kind = .manyToMany ∧
        x.settings.nonEmpty? "FOREIGNKEY" = none ∧
        x.settings.nonEmpty? "ASSOCIATIONFOREIGNKEY" = none ∧
        ∃ table, rel.joinTable? = some table ∧ table.IsDefault articles a.id x ∧
          table.columns.Nodup ∧ table.columns = ["article_id", "tag_id"] := by
  have hmodel : ((serveAll articles {} [.get 0]).models[2]?.bind fun a => a.fields[1]?.bind fun x =>
      x.relationship?.map fun rel => (x.settings.nonEmpty? "FOREIGNKEY",
        x.settings.nonEmpty? "ASSOCIATIONFOREIGNKEY", rel.kind,
        rel.joinTable?.map fun table => (table.source.model, table.destination.model))) =
      some (none, none, .manyToMany, some (0, 2)) := by decide +kernel
  obtain ⟨a, ha, hfield⟩ := Option.bind_eq_some_iff.mp hmodel
  obtain ⟨x, hx, hrelated⟩ := Option.bind_eq_some_iff.mp hfield
  obtain ⟨rel, hrel, heq⟩ := Option.map_eq_some_iff.mp hrelated
  simp only [Prod.mk.injEq] at heq
  obtain ⟨hkey, hassociation, hkind, hends⟩ := heq
  have hmem := List.mem_of_getElem? ha
  have hxmem := List.mem_of_getElem? hx
  obtain ⟨table, htable, hdefault, hnodup⟩ :=
    columns_session articles {} [.get 0] a hmem x hxmem rel hrel hkind hkey hassociation
  rw [htable] at hends
  obtain ⟨hsource, hdestination⟩ := Prod.mk.inj (Option.some.inj hends)
  refine ⟨a, hmem, x, hxmem, rel, hrel, hkind, hkey, hassociation, table, htable, hdefault, ?_, ?_⟩
  · rw [hnodup, hsource, hdestination]
    decide +kernel
  · rw [hdefault.columns, hsource, hdestination]
    decide +kernel

/-- Persons with friends, and posts with replies. -/
def circles : Schema :=
  let number : FieldType := .scalar "i64"
  { declarations :=
      [{ name := "Person"
         fields :=
          [{ name := "Id", type := number },
           { name := "Friends", type := .sequence (.model 0)
             annotation := { mapping := "many2many" } }] },
       { name := "BlogPost"
         fields :=
          [{ name := "Id", type := number },
           { name := "Replies", type := .sequence (.model 2)
             annotation := { mapping := "many2many" } }] },
       { name := "Blog_Post", fields := [{ name := "Id", type := number }] }] }

/-- The table that joins persons to their friends has one column twice.  So has the table that joins
posts to replies, for there is an underscore where a word starts. -/
theorem columns_eq_circles :
    (∃ a ∈ (serveAll circles {} [.get 0, .get 1]).models, ∃ x ∈ a.fields,
      x.relationship?.map (·.kind) = some .manyToMany ∧
      x.settings.nonEmpty? "FOREIGNKEY" = none ∧
      x.settings.nonEmpty? "ASSOCIATIONFOREIGNKEY" = none ∧
      ∃ table, x.relationship?.bind (·.joinTable?) = some table ∧
        table.source.model = table.destination.model ∧
        table.columns = ["person_id", "person_id"]) ∧
    ∃ a ∈ (serveAll circles {} [.get 0, .get 1]).models, ∃ x ∈ a.fields,
      x.relationship?.map (·.kind) = some .manyToMany ∧
      x.settings.nonEmpty? "FOREIGNKEY" = none ∧
      x.settings.nonEmpty? "ASSOCIATIONFOREIGNKEY" = none ∧
      ∃ table, x.relationship?.bind (·.joinTable?) = some table ∧
        table.source.model ≠ table.destination.model ∧
        table.columns = ["blog_post_id", "blog_post_id"] := by
  decide +kernel

end Registry
end RecordMapping
