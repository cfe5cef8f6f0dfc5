import RecordMapping.Proofs.Markers

/-!
The unique indexes of a field.

The setting is given once for each index, or for several indexes at a time with colons between them, and
its values are joined by colons in the end.  So the text that is read back says no more of where one value
ended than of where one index did, and it need not: what a joined text lists is what its two parts list,
since a colon separates either way and nothing is listed where no character stands.
-/

namespace RecordMapping

open Settings

namespace Settings

/-! ## Lists in a text -/

/-- The part of a list that stands between two colons, if anything does. -/
def item? (part : List Char) : Option String :=
  if part = [] then none else some (String.ofList part)

/-- The text lists these entries in this order, and colons separate them. -/
inductive Lists : List Char → List String → Prop
  | last {part : List Char} (h : ':' ∉ part) : Lists part (item? part).toList
  | next (part : List Char) {rest : List Char} {entries : List String} (h : ':' ∉ part)
      (hrest : Lists rest entries) :
      Lists (part ++ ':' :: rest) ((item? part).toList ++ entries)

theorem Lists.append {cs ds : List Char} {entries others : List String} (h : Lists cs entries)
    (h' : Lists ds others) : Lists (cs ++ ':' :: ds) (entries ++ others) := by
  induction h with
  | last hpart => exact .next _ hpart h'
  | next part hpart _ ih =>
    rw [List.append_assoc, List.append_assoc, List.cons_append]
    exact .next _ hpart ih

/-- A character becomes a part of the first entry, unless it is a colon. -/
theorem Lists.exists_cons {cs : List Char} {entries : List String} (c : Char)
    (h : Lists cs entries) : ∃ others, Lists (c :: cs) others := by
  by_cases hc : c = ':'
  · rw [hc]
    exact ⟨_, Lists.next [] List.not_mem_nil h⟩
  · have hcons : ∀ part : List Char, ':' ∉ part → ':' ∉ c :: part :=
      fun part hpart => List.not_mem_cons_of_ne_of_not_mem (Ne.symm hc) hpart
    cases h with
    | last hpart => exact ⟨_, .last (hcons _ hpart)⟩
    | next part hpart hrest => exact ⟨_, .next _ (hcons _ hpart) hrest⟩

theorem exists_lists (cs : List Char) : ∃ entries, Lists cs entries := by
  induction cs with
  | nil => exact ⟨_, .last List.not_mem_nil⟩
  | cons c cs ih =>
    obtain ⟨entries, h⟩ := ih
    exact h.exists_cons c

/-- Splitting at the colons and leaving out what is empty gives the entries. -/
theorem Lists.eq {cs : List Char} {entries : List String} (h : Lists cs entries) :
    ((cs.splitOn ':').filter (!·.isEmpty)).map String.ofList = entries := by
  have hsingle : ∀ part : List Char,
      (([part].filter (!·.isEmpty)).map String.ofList) = (item? part).toList := by
    intro part
    cases part with
    | nil => rfl
    | cons c part => rfl
  induction h with
  | @last part hpart => rw [List.splitOn_eq_singleton hpart, hsingle]
  | next part hpart _ ih =>
    rw [List.splitOn_append_cons_self, List.splitOn_eq_singleton hpart, List.filter_append,
      List.map_append, hsingle, ih]

/-- Values that are joined list what they list one after the other. -/
theorem lists_intercalate {values : List String} {groups : List (List String)}
    (h : List.Forall₂ (fun value entries => Lists value.toList entries) values groups)
    (hne : values ≠ []) : Lists (":".intercalate values).toList groups.flatten := by
  induction h with
  | nil => contradiction
  | @cons value entries rest others hvalue hrest ih =>
    cases hrest with
    | nil =>
      rw [String.intercalate_singleton, List.flatten_cons, List.flatten_nil, List.append_nil]
      exact hvalue
    | cons hnext hrest =>
      have hjoined := ih (List.cons_ne_nil _ _)
      rw [String.intercalate_cons_cons, String.toList_append, String.toList_append,
        List.append_assoc, List.flatten_cons]
      exact hvalue.append hjoined

end Settings

/-! ## Fields -/

namespace Field

/-- The field is part of the unique indexes that its annotation lists, each value of the setting being a
list. -/
def ListsUniqueIndexes (x : Field) : Prop :=
  ∃ parts groups, List.Forall₂ Reads x.annotation.parts parts ∧
    List.Forall₂ (fun value entries => Lists value.toList entries)
      (valuesUnder "UNIQUE_INDEX" parts) groups ∧
    x.uniqueIndexGroups = groups.flatten

theorem HasDeclaredSettings.listsUniqueIndexes {x : Field} (h : x.HasDeclaredSettings)
    (hincluded : x.isIgnored = false) : x.ListsUniqueIndexes := by
  obtain ⟨groups, hgroups⟩ : ∃ groups, List.Forall₂ (fun value entries => Lists value.toList entries)
      (valuesUnder "UNIQUE_INDEX" (x.annotation.parts.map segment)) groups := by
    choose entries hentries using fun value : String => exists_lists value.toList
    exact ⟨_, List.forall₂_map_right_iff.mpr (List.forall₂_same.mpr fun value _ => hentries value)⟩
  refine ⟨x.annotation.parts.map segment, groups, ?_, hgroups, ?_⟩
  · rw [List.forall₂_map_right_iff, List.forall₂_same]
    exact fun text _ => reads_segment text
  · have hget : x.settings.get? "UNIQUE_INDEX" =
        joined? (valuesUnder "UNIQUE_INDEX" (x.annotation.parts.map segment)) := by
      rw [h, hincluded, if_neg Bool.false_ne_true,
        x.annotation.get?_settings (by decide +kernel) (by decide)]
    rw [uniqueIndexGroups, hget]
    by_cases hvalues : valuesUnder "UNIQUE_INDEX" (x.annotation.parts.map segment) = []
    · rw [hvalues] at hgroups ⊢
      cases hgroups
      rfl
    · rw [joined?, if_neg hvalues]
      exact (lists_intercalate hgroups hvalues).eq

end Field

namespace Registry

/-- Whatever values are given in the two annotations of a field, joining and splitting them loses no
unique index, adds none and keeps them in order. -/
theorem listsUniqueIndexes_session (s : Schema) (c : Config) (qs : List Request) :
    (∀ d : FieldDeclaration, d.annotation.isExcluded = false →
      (Field.ofDeclaration d).ListsUniqueIndexes) ∧
    ∀ m ∈ (serveAll s { config := c } qs).models, ∀ x ∈ m.fields, x.isIgnored = false →
      x.ListsUniqueIndexes := by
  constructor
  · intro d hincluded
    apply (Field.hasDeclaredSettings_ofDeclaration d).listsUniqueIndexes
    rw [Field.isIgnored_ofDeclaration, hincluded]
  · intro m hm x hx hincluded
    exact (hasDeclaredSettings hm hx).listsUniqueIndexes hincluded

/-- Employees, whose number is part of unique indexes that are listed in several ways. -/
def employees : Schema :=
  { declarations :=
      [{ name := "Employee"
         fields :=
          [{ name := "Number", type := .scalar "i64"
             annotation :=
              { sql := "unique_index:by_number::;not null;Unique_Index", mapping := "unique_index:a:b" } },
           { name := "Secret", type := .scalar "String", annotation := { sql := "-" } }] }] }

/-- The number, as declared and as stored. -/
theorem listsUniqueIndexes_session_employees :
    ∃ d ∈ employees.exported 0, d.annotation.isExcluded = false ∧
      (Field.ofDeclaration d).ListsUniqueIndexes ∧
      ∃ m ∈ (serveAll employees {} [.get 0]).models, ∃ x ∈ m.fields,
        x.isIgnored = false ∧ x.ListsUniqueIndexes ∧
          x.uniqueIndexGroups = ["by_number", "UNIQUE_INDEX", "a", "b"] := by
  obtain ⟨hdeclared, hstored⟩ := listsUniqueIndexes_session employees {} [.get 0]
  have hmodel : ∃ m ∈ (serveAll employees {} [.get 0]).models, ∃ x ∈ m.fields,
      x.isIgnored = false ∧ x.uniqueIndexGroups = ["by_number", "UNIQUE_INDEX", "a", "b"] := by
    decide +kernel
  obtain ⟨m, hm, x, hx, hincluded, hgroups⟩ := hmodel
  have hnumber : ∃ d ∈ employees.exported 0, d.annotation.isExcluded = false := by decide +kernel
  obtain ⟨d, hd, hdincluded⟩ := hnumber
  exact ⟨d, hd, hdincluded, hdeclared d hdincluded, m, hm, x, hx, hincluded,
    hstored m hm x hx hincluded, hgroups⟩

end Registry
end RecordMapping
