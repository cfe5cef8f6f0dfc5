import RecordMapping.Proofs.Faults

/-!
The grammar of attributes.

The attributes of two paths are for the derivation, and the grammar says what form they have.  It
is stated of the attributes themselves, and nothing is wrong with an item exactly if all of them
keep to it.
-/

namespace RecordMapping
namespace Derive

/-! ## The grammar -/

def Form.IsText (form : Form) : Prop := ∃ text, form = .value [.text text]

/-- A list of such arguments, with a comma behind the last or without. -/
def Form.Lists (p : List Token → Prop) (form : Form) : Prop :=
  ∃ arguments, (∀ code ∈ arguments, p code) ∧
    (form = .list arguments ∨ form = .list (arguments ++ [[]]))

/-- An attribute that a field can have.  Those with other paths are free. -/
structure Attribute.FitsField (a : Attribute) : Prop where
  sql : a.path = [.name sqlPath] → a.form.IsText
  mapping : a.path = [.name mappingPath] → a.form.IsText ∨ a.form.Lists (· = [.name "embed"])

/-- An attribute that an item can have. -/
structure Attribute.FitsItem (a : Attribute) : Prop where
  mapping : a.path = [.name mappingPath] → a.form.Lists fun code =>
    (∃ name, code = [.name "table", .sign '=', .text name]) ∨ code = [.name "table_name"]

/-- An item that a definition can be derived from. -/
structure Item.IsDerivable (i : Item) : Prop where
  generics : i.isGeneric = false
  shape : i.shape = .named ∨ i.shape = .unit
  fields : ∀ f ∈ i.declaredFields, ∀ a ∈ f.attributes, a.FitsField
  attributes : ∀ a ∈ i.attributes, a.FitsItem

/-! ## Nothing wrong -/

theorem endFaults_eq_nil_iff {left : List Token} : endFaults left = [] ↔ left = [] := by
  cases left with
  | nil => simp [endFaults]
  | cons t left => simp [endFaults]

theorem Argument.fieldFaults_eq_nil_iff {a : Argument} :
    a.fieldFaults = [] ↔ a.name? = some "embed" ∧ a.code = [] := by
  unfold Argument.fieldFaults
  split
  · next hname => simp [hname, endFaults_eq_nil_iff]
  · next hname => simp [hname]

theorem readFaults_fieldFaults_eq_nil_iff (isLast : Bool) (code : List Token) :
    readFaults Argument.fieldFaults isLast code = [] ↔ code = embedMark := by
  constructor
  · intro h
    unfold readFaults at h
    split at h
    · cases h
    · next a hread =>
      obtain ⟨hname, hcode⟩ := Argument.fieldFaults_eq_nil_iff.mp h
      rw [Argument.code_of_read hread hname, hcode]
      rfl
  · rintro rfl
    rfl

theorem readFaults_itemFaults_eq_nil_iff (isLast : Bool) (code : List Token) :
    readFaults Argument.itemFaults isLast code = [] ↔ (tableSource? code).isSome := by
  constructor
  · intro h
    unfold readFaults at h
    split at h
    · cases h
    · next a hread =>
      unfold Argument.itemFaults at h
      split at h
      · next hname =>
        rw [Argument.code_of_read hread hname]
        unfold tableFaults at h
        split at h
        · next hcode =>
          rw [hcode, endFaults_eq_nil_iff.mp h]
          rfl
        · cases h
        · cases h
        · cases h
      · split at h
        · next hname =>
          rw [Argument.code_of_read hread hname, endFaults_eq_nil_iff.mp h]
          rfl
        · cases h
  · intro h
    unfold tableSource? at h
    split at h
    · rfl
    · rfl
    · cases h

theorem argumentFaults_eq_nil_iff {wrong : Bool → List Token → List DeriveError}
    {p : List Token → Prop} (h : ∀ isLast code, wrong isLast code = [] ↔ p code)
    {pieces : List (List Token)} :
    argumentFaults wrong pieces = [] ↔ (Form.list pieces).Lists p := by
  induction pieces with
  | nil => exact iff_of_true rfl ⟨[], by simp, .inl rfl⟩
  | cons code rest ih =>
    by_cases hcomma : code :: rest = [[]]
    · rw [hcomma]
      exact iff_of_true rfl ⟨[], by simp, .inr rfl⟩
    · rw [argumentFaults_cons wrong hcomma, List.append_eq_nil_iff, h, ih]
      constructor
      · rintro ⟨hcode, arguments, hall, hrest⟩
        refine ⟨code :: arguments, List.forall_mem_cons.mpr ⟨hcode, hall⟩, ?_⟩
        simpa using hrest
      · rintro ⟨arguments, hall, hpieces⟩
        cases arguments with
        | nil => simp_all
        | cons first arguments =>
          obtain ⟨hfirst, hothers⟩ := List.forall_mem_cons.mp hall
          obtain ⟨rfl, hrest⟩ : code = first ∧ (rest = arguments ∨ rest = arguments ++ [[]]) := by
            simpa [← and_or_left] using hpieces
          exact ⟨hfirst, arguments, hothers, by simpa using hrest⟩

theorem textFaults_eq_nil_iff {code : List Token} :
    textFaults code = [] ↔ (Form.value code).IsText := by
  constructor
  · intro h
    unfold textFaults at h
    split at h
    · exact ⟨_, rfl⟩
    · cases h
  · rintro ⟨text, htext⟩
    cases htext
    rfl

theorem tableSource?_isSome_iff {code : List Token} :
    (tableSource? code).isSome ↔
      (∃ name, code = [.name "table", .sign '=', .text name]) ∨ code = [.name "table_name"] := by
  constructor
  · intro h
    unfold tableSource? at h
    split at h
    · exact .inl ⟨_, rfl⟩
    · exact .inr rfl
    · cases h
  · rintro (⟨name, rfl⟩ | rfl)
    · rfl
    · rfl

theorem Attribute.fieldFaults_eq_nil_iff {a : Attribute} : a.fieldFaults = [] ↔ a.FitsField := by
  have hpaths : ¬ [Token.name sqlPath] = [.name mappingPath] := by decide
  have hword : ¬ Form.word.IsText := by rintro ⟨text, htext⟩; cases htext
  have hlist (arguments : List (List Token)) : ¬ (Form.list arguments).IsText := by
    rintro ⟨text, htext⟩; cases htext
  obtain ⟨path, form⟩ := a
  unfold Attribute.fieldFaults
  by_cases hsql : path = [.name sqlPath]
  · subst hsql
    rw [if_pos rfl]
    trans form.IsText
    · cases form with
      | word => simp [hword]
      | list arguments => simp [hlist]
      | value code => exact textFaults_eq_nil_iff
    · exact ⟨fun h => ⟨fun _ => h, fun h' => absurd h' hpaths⟩, fun h => h.sql rfl⟩
  · rw [if_neg hsql]
    by_cases hmapping : path = [.name mappingPath]
    · subst hmapping
      rw [if_pos rfl]
      trans form.IsText ∨ form.Lists (· = [.name "embed"])
      · cases form with
        | word => simp [hword, Form.Lists]
        | list arguments =>
          simp only [hlist, false_or]
          exact argumentFaults_eq_nil_iff readFaults_fieldFaults_eq_nil_iff
        | value code => simp [textFaults_eq_nil_iff, Form.Lists]
      · exact ⟨fun h => ⟨fun h' => absurd h'.symm hpaths, fun _ => h⟩, fun h => h.mapping rfl⟩
    · rw [if_neg hmapping]
      exact iff_of_true rfl ⟨fun h => absurd h hsql, fun h => absurd h hmapping⟩

theorem Attribute.itemFaults_eq_nil_iff {a : Attribute} : a.itemFaults = [] ↔ a.FitsItem := by
  obtain ⟨path, form⟩ := a
  unfold Attribute.itemFaults
  by_cases hpath : path = [.name mappingPath]
  · subst hpath
    rw [if_pos rfl]
    trans form.Lists fun code =>
      (∃ name, code = [.name "table", .sign '=', .text name]) ∨ code = [.name "table_name"]
    · cases form with
      | word => simp [Form.Lists]
      | value code => simp [Form.Lists]
      | list arguments =>
        exact argumentFaults_eq_nil_iff fun isLast code =>
          (readFaults_itemFaults_eq_nil_iff isLast code).trans tableSource?_isSome_iff
    · exact ⟨fun h => ⟨fun _ => h⟩, fun h => h.mapping rfl⟩
  · rw [if_neg hpath]
    exact iff_of_true rfl ⟨fun h => absurd h hpath⟩

theorem Shape.faults_eq_nil_iff {shape : Shape} :
    shape.faults = [] ↔ shape = .named ∨ shape = .unit := by
  cases shape <;> simp [Shape.faults]

theorem Item.faults_eq_nil_iff {i : Item} : i.faults = [] ↔ i.IsDerivable := by
  have hgeneric :
      (if i.isGeneric then [DeriveError.generic] else []) = [] ↔ i.isGeneric = false := by
    cases i.isGeneric <;> simp
  unfold Item.faults FieldItem.faults
  simp only [List.append_eq_nil_iff, List.flatMap_eq_nil_iff, hgeneric, Shape.faults_eq_nil_iff,
    Attribute.fieldFaults_eq_nil_iff, Attribute.itemFaults_eq_nil_iff]
  exact ⟨fun ⟨⟨⟨hgenerics, hshape⟩, hfields⟩, hattributes⟩ =>
      ⟨hgenerics, hshape, hfields, hattributes⟩,
    fun h => ⟨⟨⟨h.generics, h.shape⟩, h.fields⟩, h.attributes⟩⟩

instance (i : Item) : Decidable i.IsDerivable :=
  decidable_of_iff (i.faults = []) i.faults_eq_nil_iff

/-! ## Attributes of others -/

def Attribute.isForFields (a : Attribute) : Bool :=
  a.path = [.name sqlPath] ∨ a.path = [.name mappingPath]

def FieldItem.essential (f : FieldItem) : FieldItem :=
  { f with attributes := f.attributes.filter (·.isForFields) }

/-- The item with no attributes but those that are for the derivation. -/
def Item.essential (i : Item) : Item :=
  { i with
    attributes := i.attributes.filter (·.path = [.name mappingPath])
    fields := i.fields.map FieldItem.essential }

/-- What nothing is put together from can be left out before. -/
theorem flatMap_filter_of_forall {α β : Type} {p : α → Bool} {f : α → List β}
    (h : ∀ a, p a = false → f a = []) (as : List α) : (as.filter p).flatMap f = as.flatMap f := by
  induction as with
  | nil => rfl
  | cons a as ih =>
    cases hp : p a with
    | true => simp [hp, ih]
    | false => simp [hp, ih, h a hp]

theorem FieldItem.texts_eq_flatMap (f : FieldItem) (path : String) :
    f.texts path = f.attributes.flatMap fun a => (a.text? path).toList :=
  List.filterMap_eq_flatMap_toList _ _

theorem FieldItem.faults_essential (f : FieldItem) : f.essential.faults = f.faults := by
  refine flatMap_filter_of_forall (fun a ha => ?_) f.attributes
  simp_all [Attribute.isForFields, Attribute.fieldFaults]

theorem FieldItem.texts_essential {path : String} (h : path = sqlPath ∨ path = mappingPath)
    (f : FieldItem) : f.essential.texts path = f.texts path := by
  rw [texts_eq_flatMap, texts_eq_flatMap]
  refine flatMap_filter_of_forall (fun a ha => ?_) f.attributes
  rcases h with rfl | rfl <;> simp_all [Attribute.isForFields, Attribute.text?]

theorem FieldItem.arguments_essential (f : FieldItem) : f.essential.arguments = f.arguments := by
  refine flatMap_filter_of_forall (fun a ha => ?_) f.attributes
  simp_all [Attribute.isForFields, Attribute.arguments]

theorem FieldItem.outline_essential (f : FieldItem) : f.essential.outline = f.outline := by
  unfold FieldItem.outline
  rw [f.texts_essential (.inl rfl), f.texts_essential (.inr rfl), f.arguments_essential]
  rfl

theorem Item.declaredFields_essential (i : Item) :
    i.essential.declaredFields = i.declaredFields.map FieldItem.essential := by
  unfold Item.declaredFields
  show (if i.shape = .named then i.fields.map FieldItem.essential else []) = _
  by_cases hshape : i.shape = .named
  · rw [if_pos hshape, if_pos hshape]
  · rw [if_neg hshape, if_neg hshape, List.map_nil]

theorem Item.faults_essential (i : Item) : i.essential.faults = i.faults := by
  have hattributes : i.essential.attributes.flatMap Attribute.itemFaults =
      i.attributes.flatMap Attribute.itemFaults :=
    flatMap_filter_of_forall (fun a ha => by simp_all [Attribute.itemFaults]) i.attributes
  unfold Item.faults
  rw [hattributes, i.declaredFields_essential, List.flatMap_map]
  simp only [FieldItem.faults_essential]
  rfl

theorem Item.outline_essential (i : Item) : i.essential.outline = i.outline := by
  have harguments : i.essential.attributes.flatMap Attribute.arguments =
      i.attributes.flatMap Attribute.arguments :=
    flatMap_filter_of_forall (fun a ha => by simp_all [Attribute.arguments]) i.attributes
  unfold Item.outline Item.tableSources
  rw [harguments, i.declaredFields_essential, List.map_map]
  simp only [Function.comp_def, FieldItem.outline_essential]
  rfl

theorem Item.define_essential (i : Item) : i.essential.define = i.define := by
  rw [Item.define_eq_unlessFaulty, Item.define_eq_unlessFaulty, i.faults_essential,
    i.outline_essential]

/-- A definition is derived exactly from the items that keep to the grammar, and it is their
outline.  From other items nothing is derived, and the error is the first of all that is wrong:
parameters, the shape, the attributes of one field after the other, the item's own attributes.
Attributes with other paths change none of this. -/
theorem Item.define_grammar (i : Item) :
    ((∃ d, i.define = .ok d) ↔ i.IsDerivable) ∧
    (∀ d, i.define = .ok d ↔ i.IsDerivable ∧ d = i.outline) ∧
    (∀ e, i.define = .error e ↔ i.faults.head? = some e) ∧
    i.essential.define = i.define := by
  have hok (d : Definition) : i.define = .ok d ↔ i.IsDerivable ∧ d = i.outline := by
    rw [i.define_eq_unlessFaulty, unlessFaulty_eq_ok_iff, i.faults_eq_nil_iff]
  refine ⟨?_, hok, ?_, i.define_essential⟩
  · simp only [hok, exists_and_left, exists_eq, and_true]
  · intro e
    rw [i.define_eq_unlessFaulty, unlessFaulty_eq_error_iff]

/-- An item with an attribute of somebody else, commas at the end of arguments, and three arguments
for the table's name. -/
def badge : Item :=
  { shape := .named, name := "Badge"
    attributes := [
      { path := [.name "derive"], form := .list [[.name "Clone"]] },
      { path := [.name "tagmodel"]
        form := .list [[.name "table", .sign '=', .text "labels"], [.name "table_name"], []] },
      { path := [.name "tagmodel"], form := .list [[.name "table", .sign '=', .text "badges"]] }]
    fields := [
      { name? := some "base", type := "Base"
        attributes := [
          { path := [.name "tagmodel"], form := .list [[.name "embed"], [.name "embed"], []] },
          { path := [.name "sql"], form := .value [.text "index"] }] },
      { name? := some "code", type := "String" }] }

/-- The item with a number for an annotation of its second field, and with an argument that no item
takes. -/
def faultyBadge : Item :=
  { badge with
    attributes := [{ path := [.name "tagmodel"], form := .list [[.name "schema"]] }]
    fields := badge.fields.take 1 ++ [
      { name? := some "code", type := "String"
        attributes := [{ path := [.name "sql"], form := .value [.number] }] }] }

theorem define_badge :
    badge.IsDerivable ∧
    (∃ d, badge.define = .ok d ∧ d.table = .literal "badges" ∧
      d.fields.map (·.anonymous) = [true, false]) ∧
    ¬ faultyBadge.IsDerivable ∧ faultyBadge.define = .error .annotationLiteral := by
  have hbadge : badge.IsDerivable := by decide +kernel
  refine ⟨hbadge, ⟨badge.outline, (badge.define_grammar.2.1 _).mpr ⟨hbadge, rfl⟩, ?_, ?_⟩, ?_, ?_⟩
  · decide +kernel
  · decide +kernel
  · decide +kernel
  · exact (faultyBadge.define_grammar.2.2.1 _).mpr (by decide +kernel)

end Derive
end RecordMapping
