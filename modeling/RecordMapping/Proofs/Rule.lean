import RecordMapping.Proofs.Resolution.Shares

/-!
The rule for relationships, read off the declarations.

A relationship is looked for among the declared fields of the two models that it joins.  Neither model
has to be resolved for that.  `Schema.decision` states the rule, and it is what resolution finds between
two sides that look as they were declared.
-/

namespace RecordMapping

open Resolution

/-! ## The rule -/

/-- What becomes of a field that holds records of a target.  A key is found in the owner of the field,
or in the target, or it is the target's polymorphic one. -/
inductive Decision where
  | joined (source destination : KeyRef) (table : JoinTable)
  | own (key : Located)
  | theirs (kind : Relationship.Kind) (key : Located)
  | paired (kind : Relationship.Kind) (key : Located)
  | undecided (foreignKey : String)
deriving DecidableEq, Repr

namespace Decision

/-- The relationship that was decided on.  The type names of a polymorphic pair are kept whichever key
it has. -/
def relationship? (type? : Option KeyRef) : Decision → Option Relationship
  | .joined source destination table =>
    some {
      kind := .manyToMany
      foreignKey := source
      associationKey? := some destination
      polymorphicType? := type?
      joinTable? := some table }
  | .own key => some { kind := .belongsTo, foreignKey := key.ref, polymorphicType? := type? }
  | .theirs kind key => some { kind, foreignKey := key.ref, polymorphicType? := type? }
  | .paired kind key => some { kind, foreignKey := key.ref, polymorphicType? := type? }
  | .undecided _ => none

/-- The entry for a field that stays without a relationship. -/
def unresolved? (name : String) : Decision → Option Unresolved
  | .undecided foreignKey => some ⟨name, foreignKey⟩
  | _ => none

/-- The field that becomes a key because it was found.  A polymorphic one became a key before. -/
def marks (owner target : ModelId) : Decision → List Mark
  | .own key => [⟨owner, key.index⟩]
  | .theirs _ key => [⟨target, key.index⟩]
  | _ => []

end Decision

/-- The fields of the target that a polymorphic pair makes keys. -/
def pairMarks (target : ModelId) : Option (Located × Located) → List Mark
  | none => []
  | some (id, type) => [⟨target, type.index⟩, ⟨target, id.index⟩]

namespace Schema

/-- The first exported field that answers to the key, be it ignored or not. -/
def firstMatch? (s : Schema) (id : ModelId) (key : String) : Option Located :=
  ((s.exported id).zipIdx.find? fun (d, _) => (Field.ofDeclaration d).answersTo key).map
    fun (d, i) => ⟨i, (Field.ofDeclaration d).keyRef⟩

/-- The fields `PId` and `PType` of the target, for a setting `POLYMORPHIC:P` that is not empty, if both
exist. -/
def pair? (s : Schema) (target : ModelId) (d : FieldDeclaration) : Option (Located × Located) := do
  let name ← d.annotation.settings.nonEmpty? "POLYMORPHIC"
  let id ← s.firstMatch? target (name ++ "Id")
  let type ← s.firstMatch? target (name ++ "Type")
  return (id, type)

/-- The column of the first field that is tagged as primary key, or `id`. -/
def primaryColumn (s : Schema) (id : ModelId) : String :=
  ((((s.exported id).map Field.ofDeclaration).find? (·.isPrimaryKey)).map (·.column)).getD "id"

/-- The key that the target of a field should have. -/
def theirKey (s : Schema) (owner : ModelId) (d : FieldDeclaration) : String :=
  (d.annotation.settings.nonEmpty? "FOREIGNKEY").getD (s.name owner ++ "Id")

def ownKey (d : FieldDeclaration) : String :=
  (d.annotation.settings.nonEmpty? "FOREIGNKEY").getD (d.name ++ "Id")

def join (s : Schema) (owner target : ModelId) (d : FieldDeclaration) (setting : String) :
    Decision :=
  let foreignKey := s.theirKey owner d
  let associationKey :=
    (d.annotation.settings.nonEmpty? "ASSOCIATIONFOREIGNKEY").getD (s.name target ++ "Id")
  .joined ⟨foreignKey, Naming.columnName foreignKey⟩
    ⟨associationKey, Naming.columnName associationKey⟩
    { name := joinTableName setting (s.name owner) (s.name target)
      source := ⟨owner, Naming.columnName foreignKey, s.primaryColumn owner⟩
      destination := ⟨target, Naming.columnName associationKey, s.primaryColumn target⟩ }

/-- A key in the target, else its polymorphic one.  A polymorphic key without a name is none. -/
def theirDecision (s : Schema) (kind : Relationship.Kind) (owner target : ModelId)
    (d : FieldDeclaration) : Decision :=
  match s.firstMatch? target (s.theirKey owner d) with
  | some key => .theirs kind key
  | none =>
    match s.pair? target d with
    | some (id, _) => if id.ref.field ≠ "" then .paired kind id else .undecided (s.theirKey owner d)
    | none => .undecided (s.theirKey owner d)

/-- The rule.  Several records of the target are joined by a table if the field says so.  For one
record, a key in the owner comes before a key in the target. -/
def decision (s : Schema) (owner target : ModelId) (d : FieldDeclaration) : Decision :=
  match d.type.present with
  | .sequence _ =>
    match d.annotation.settings.get? "MANY2MANY" with
    | some setting => s.join owner target d setting
    | none => s.theirDecision .hasMany owner target d
  | _ =>
    match s.firstMatch? owner (ownKey d) with
    | some key => .own key
    | none => s.theirDecision .hasOne owner target d

/-- The relationship that the rule gives to a field. -/
def relationship? (s : Schema) (owner target : ModelId) (d : FieldDeclaration) :
    Option Relationship :=
  (s.decision owner target d).relationship? ((s.pair? target d).map (·.2.ref))

/-! ## What the rule looks at -/

section

variable {s : Schema} {owner target : ModelId} {d : FieldDeclaration}

theorem index_lt_of_firstMatch? {key : String} {found : Located}
    (h : s.firstMatch? target key = some found) : found.index < (s.exported target).length := by
  rw [firstMatch?, Option.map_eq_some_iff] at h
  obtain ⟨⟨x, i⟩, hfind, rfl⟩ := h
  have hmem := List.mem_zipIdx_iff_getElem?.mp (List.mem_of_find?_eq_some hfind)
  exact (List.getElem?_eq_some_iff.mp hmem).1

theorem firstMatch?_of_pair? {id type : Located} (h : s.pair? target d = some (id, type)) :
    ∃ name, s.firstMatch? target (name ++ "Id") = some id ∧
      s.firstMatch? target (name ++ "Type") = some type := by
  simp only [pair?, Option.bind_eq_bind, Option.bind_eq_some_iff] at h
  obtain ⟨name, -, id', hid, type', htype, heq⟩ := h
  obtain ⟨rfl, rfl⟩ := Prod.mk.inj (Option.some.inj heq)
  exact ⟨name, hid, htype⟩

theorem firstMatch?_of_theirDecision {kind kind' : Relationship.Kind} {key : Located}
    (h : s.theirDecision kind owner target d = .theirs kind' key) :
    s.firstMatch? target (s.theirKey owner d) = some key := by
  unfold theirDecision at h
  split at h
  · next hmatch => rw [hmatch, (Decision.theirs.inj h).2]
  · split at h
    · split at h <;> contradiction
    · contradiction

theorem theirDecision_ne_own (kind : Relationship.Kind) (key : Located) :
    s.theirDecision kind owner target d ≠ .own key := by
  intro h
  unfold theirDecision at h
  split at h
  · contradiction
  · split at h
    · split at h <;> contradiction
    · contradiction

theorem firstMatch?_of_theirs {kind : Relationship.Kind} {key : Located}
    (h : s.decision owner target d = .theirs kind key) :
    s.firstMatch? target (s.theirKey owner d) = some key := by
  unfold decision at h
  split at h
  · split at h
    · contradiction
    · exact firstMatch?_of_theirDecision h
  · split at h
    · contradiction
    · exact firstMatch?_of_theirDecision h

theorem firstMatch?_of_own {key : Located} (h : s.decision owner target d = .own key) :
    s.firstMatch? owner (ownKey d) = some key := by
  unfold decision at h
  split at h
  · split at h
    · contradiction
    · exact absurd h (theirDecision_ne_own _ _)
  · split at h
    · next hmatch => rw [hmatch, Decision.own.inj h]
    · exact absurd h (theirDecision_ne_own _ _)

end

end Schema

/-! ## What is found -/

namespace Resolution

section

variable {s : Schema} {owner target : ModelId} {d : FieldDeclaration}

theorem locate?_declaredView (hr : s.isRecord target = true) (key : String) :
    (s.declaredView target).locate? key = s.firstMatch? target key := by
  rw [View.locate?, Schema.fields_declaredView hr, List.zipIdx_map, List.find?_map, Option.map_map]
  rfl

theorem primaryColumn_declaredView (hr : s.isRecord target = true) :
    (s.declaredView target).primaryColumn = s.primaryColumn target := by
  rw [View.primaryColumn_eq, Schema.key?_declaredView hr]
  rfl

/-- Whatever is found begins with the polymorphic pair of the target. -/
theorem start_declared (hr : s.isRecord target = true) (kind : Relationship.Kind) :
    start kind (s.declaredSide target) d.annotation.settings =
      ({ kind
         foreignKey := ((s.pair? target d).map (·.1.ref)).getD ⟨"", ""⟩
         polymorphicType? := (s.pair? target d).map (·.2.ref) },
        pairMarks target (s.pair? target d)) := by
  have hlocate : (s.declaredSide target).view.locate? = s.firstMatch? target :=
    funext (locate?_declaredView hr)
  have hpair : polymorphicPair? (s.declaredSide target) d.annotation.settings =
      s.pair? target d := by rw [polymorphicPair?, Schema.pair?, hlocate]
  cases hdeclared : s.pair? target d with
  | none => rw [start_of_none (hpair.trans hdeclared)]; rfl
  | some pair => rw [start_of_some (hpair.trans hdeclared)]; rfl

/-- The finding says the same as the decision. -/
structure Finding.Agrees (f : Finding) (owner target : ModelId) (pair? : Option (Located × Located))
    (c : Decision) : Prop where
  relationship : f.outcome.relationship? = c.relationship? (pair?.map (·.2.ref))
  unresolved : ∀ name, f.outcome.unresolved? name = c.unresolved? name
  marks : f.marks = pairMarks target pair? ++ c.marks owner target

theorem heldByTarget_declared (hr : s.isRecord target = true) (kind : Relationship.Kind) :
    (heldByTarget kind (s.declaredSide target) d.annotation.settings
      (s.theirKey owner d)).Agrees owner target (s.pair? target d)
      (s.theirDecision kind owner target d) := by
  have hlocate : (s.declaredSide target).view.locate? (s.theirKey owner d) =
      s.firstMatch? target (s.theirKey owner d) := locate?_declaredView hr _
  unfold Schema.theirDecision
  cases hmatch : s.firstMatch? target (s.theirKey owner d) with
  | some key =>
    rw [heldByTarget_of_some (hlocate.trans hmatch), start_declared hr]
    exact ⟨rfl, fun _ => rfl, rfl⟩
  | none =>
    rw [heldByTarget_of_none (hlocate.trans hmatch), start_declared hr]
    cases s.pair? target d with
    | none => exact ⟨rfl, fun _ => rfl, rfl⟩
    | some pair =>
      have hkey : Relationship.hasForeignKey
            { kind, foreignKey := pair.1.ref, polymorphicType? := some pair.2.ref } =
          decide (pair.1.ref.field ≠ "") := rfl
      simp only [Option.map_some, Option.getD_some, hkey, decide_eq_true_eq]
      by_cases hname : pair.1.ref.field ≠ ""
      · rw [if_pos hname, if_pos hname]
        exact ⟨rfl, fun _ => rfl, rfl⟩
      · rw [if_neg hname, if_neg hname]
        exact ⟨rfl, fun _ => rfl, rfl⟩

/-- A field that holds one record and is not replaced by it does not say that it embeds. -/
theorem contains_embedded_eq_false (hincluded : d.annotation.isExcluded = false)
    (ht : d.type.present = .model target) (hr : s.isRecord target = true) (hembeds : ¬ s.Embeds d) :
    ((Field.ofDeclaration d).settings.contains "EMBEDDED" || d.anonymous) = false := by
  rw [Field.settings_ofDeclaration hincluded, Bool.eq_false_iff]
  intro h
  exact hembeds ⟨hincluded, Bool.or_eq_true _ _ ▸ h, target, ht, hr⟩

/-- Between sides that look as they were declared, what is found is what the rule decides. -/
theorem find_declared (hincluded : d.annotation.isExcluded = false) (ht : d.type.Holds target)
    (ho : s.isRecord owner = true) (hr : s.isRecord target = true) (hembeds : ¬ s.Embeds d) :
    (find (s.declaredSide owner) s.declaredSide (Field.ofDeclaration d) d.anonymous).Agrees owner
      target (s.pair? target d) (s.decision owner target d) := by
  have hsettings := Field.settings_ofDeclaration hincluded
  have hview : (s.declaredSide target).view.isRecord = true :=
    (s.isRecord_declaredView target).trans hr
  cases ht with
  | one hpresent =>
    have hrole : (Field.ofDeclaration d).type.role = .one target :=
      FieldType.role_eq_one_iff.mpr hpresent
    have hplain := contains_embedded_eq_false hincluded hpresent hr hembeds
    have hlocate : (s.declaredSide owner).view.locate?
          (((Field.ofDeclaration d).settings.nonEmpty? "FOREIGNKEY").getD
            ((Field.ofDeclaration d).name ++ "Id")) =
        s.firstMatch? owner (Schema.ownKey d) := by
      rw [hsettings]
      exact locate?_declaredView ho _
    rw [find_one hrole hview, hplain]
    simp only [Schema.decision, hpresent]
    cases hmatch : s.firstMatch? owner (Schema.ownKey d) with
    | some key =>
      rw [findOne_of_some (hlocate.trans hmatch), hsettings, start_declared hr]
      exact ⟨rfl, fun _ => rfl, rfl⟩
    | none =>
      rw [findOne_of_none (hlocate.trans hmatch), hsettings]
      exact heldByTarget_declared hr .hasOne
  | many hpresent he =>
    have hrole : (Field.ofDeclaration d).type.role = .many target := by
      simp [Field.ofDeclaration, FieldType.role, hpresent, he]
    rw [find_many hrole hview]
    simp only [Schema.decision, hpresent]
    cases hsetting : d.annotation.settings.get? "MANY2MANY" with
    | none =>
      rw [findMany_of_none (hsettings ▸ hsetting), hsettings]
      exact heldByTarget_declared hr .hasMany
    | some setting =>
      have howner : (s.declaredSide owner).view.primaryColumn = s.primaryColumn owner :=
        primaryColumn_declaredView ho
      have htarget : (s.declaredSide target).view.primaryColumn = s.primaryColumn target :=
        primaryColumn_declaredView hr
      rw [findMany_of_some (hsettings ▸ hsetting), hsettings, heldByJoinTable, howner, htarget,
        start_declared hr]
      exact ⟨rfl, fun _ => rfl, (List.append_nil _).symm⟩

/-- An embedding makes keys of its polymorphic pair all the same. -/
theorem marks_find_declared_of_embeds (hembeds : s.Embeds d) (ht : d.type.Holds target)
    (hr : s.isRecord target = true) :
    (find (s.declaredSide owner) s.declaredSide (Field.ofDeclaration d) d.anonymous).marks =
      pairMarks target (s.pair? target d) := by
  obtain ⟨hincluded, hplain, t, hpresent, -⟩ := hembeds
  obtain rfl : t = target := FieldType.Holds.unique (.one hpresent) ht
  have hsettings := Field.settings_ofDeclaration hincluded
  have hrole : (Field.ofDeclaration d).type.role = .one t := FieldType.role_eq_one_iff.mpr hpresent
  have hembeds : ((Field.ofDeclaration d).settings.contains "EMBEDDED" || d.anonymous) = true := by
    rw [hsettings]
    exact Bool.or_eq_true _ _ ▸ hplain
  rw [find_one hrole ((s.isRecord_declaredView t).trans hr), hembeds, findOne_embeds, hsettings,
    start_declared hr]

/-- What is found from a target that looks as it was declared is found between declared sides. -/
theorem declaredFinding_eq {v : View} (ht : d.type.Holds target)
    (hv : v.Alike (s.declaredView target)) :
    declaredFinding s owner d v =
      find (s.declaredSide owner) s.declaredSide (Field.ofDeclaration d) d.anonymous := by
  rw [declaredFinding]
  apply find_congr (Side.Alike.refl _)
  · intro t hassociated
    obtain rfl : target = t := ht.unique (FieldType.associated?_eq_some_iff.mp hassociated)
    exact ⟨rfl, rfl, hv⟩
  · rfl
  · rfl
  · rfl

end

end Resolution
end RecordMapping
