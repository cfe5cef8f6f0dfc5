import RecordMapping.Proofs.References
import RecordMapping.Proofs.Resolution.View

/-!
Where the key of a relationship is.

A relationship is found together with its key.  A join table needs no field for it.  Any other key is a
field that can be located in one of the two models, and the finding marks this field.
-/

namespace RecordMapping
namespace Resolution

/-- The key is a field of the model that can be located and is marked. -/
def Side.Yields (side : Side) (marks : List Mark) (key : KeyRef) : Prop :=
  ∃ name found, side.view.locate? name = some found ∧ found.ref = key ∧
    ⟨side.id, found.index⟩ ∈ marks

/-- The table refers to the primary columns of both models, as far as they can be read. -/
structure Joins (owner target : Side) (table : JoinTable) : Prop where
  source : table.source.model = owner.id ∧ table.source.primaryColumn = owner.view.primaryColumn
  destination :
    table.destination.model = target.id ∧
      table.destination.primaryColumn = target.view.primaryColumn

inductive Related (owner target : Side) (marks : List Mark) (r : Relationship) : Prop
  | joined {table : JoinTable} (hkind : r.kind = .manyToMany) (htable : r.joinTable? = some table)
      (hjoins : Joins owner target table) : Related owner target marks r
  | own (hkind : r.kind = .belongsTo) (hkey : owner.Yields marks r.foreignKey) :
      Related owner target marks r
  | theirs (hkind : r.kind = .hasOne ∨ r.kind = .hasMany)
      (hkey : target.Yields marks r.foreignKey) : Related owner target marks r

section

variable {owner target : Side} {field : Field} {r : Relationship}

theorem Side.yields_of_locate? {name : String} {found : Located}
    (h : target.view.locate? name = some found) (marks : List Mark) :
    target.Yields (marks ++ [⟨target.id, found.index⟩]) found.ref :=
  ⟨name, found, h, rfl, List.mem_append_right _ List.mem_cons_self⟩

theorem start_kind (kind : Relationship.Kind) (target : Side) (settings : Settings) :
    (start kind target settings).1.kind = kind := by
  unfold start
  split <;> rfl

theorem yields_of_start {kind : Relationship.Kind} {settings : Settings}
    (h : (start kind target settings).1.hasForeignKey = true) :
    target.Yields (start kind target settings).2 (start kind target settings).1.foreignKey := by
  cases hpair : polymorphicPair? target settings with
  | none =>
    rw [start_of_none hpair] at h
    contradiction
  | some pair =>
    obtain ⟨id, type⟩ := pair
    rw [start_of_some hpair]
    simp only [polymorphicPair?, Option.bind_eq_bind, Option.bind_eq_some_iff] at hpair
    obtain ⟨name, -, id', hid, type', -, heq⟩ := hpair
    obtain ⟨rfl, rfl⟩ := Prod.mk.inj (Option.some.inj heq)
    exact ⟨_, id', hid, rfl, List.mem_cons_of_mem _ List.mem_cons_self⟩

theorem yields_of_heldByTarget {kind : Relationship.Kind} {settings : Settings} {foreignKey : String}
    (h : (heldByTarget kind target settings foreignKey).outcome = .related r) :
    r.kind = kind ∧
      target.Yields (heldByTarget kind target settings foreignKey).marks r.foreignKey := by
  cases hlocate : target.view.locate? foreignKey with
  | some found =>
    rw [heldByTarget_of_some hlocate] at h ⊢
    rw [← Outcome.related.inj h]
    exact ⟨start_kind kind target settings, Side.yields_of_locate? hlocate _⟩
  | none =>
    rw [heldByTarget_of_none hlocate] at h ⊢
    by_cases hkey : (start kind target settings).1.hasForeignKey = true
    · rw [if_pos hkey] at h
      rw [← Outcome.related.inj h]
      exact ⟨start_kind kind target settings, yields_of_start hkey⟩
    · rw [if_neg hkey] at h
      contradiction

theorem related_of_findOne {embeds : Bool}
    (h : (findOne owner target field embeds).outcome = .related r) :
    Related owner target (findOne owner target field embeds).marks r := by
  cases embeds with
  | true =>
    rw [findOne_embeds] at h
    contradiction
  | false =>
    cases hlocate : owner.view.locate?
        ((field.settings.nonEmpty? "FOREIGNKEY").getD (field.name ++ "Id")) with
    | some found =>
      rw [findOne_of_some hlocate] at h ⊢
      rw [← Outcome.related.inj h]
      exact .own (start_kind .belongsTo target field.settings) (Side.yields_of_locate? hlocate _)
    | none =>
      rw [findOne_of_none hlocate] at h ⊢
      obtain ⟨hkind, hkey⟩ := yields_of_heldByTarget h
      exact .theirs (Or.inl hkind) hkey

theorem related_of_findMany (h : (findMany owner target field).outcome = .related r) :
    Related owner target (findMany owner target field).marks r := by
  cases hsetting : field.settings.get? "MANY2MANY" with
  | some setting =>
    rw [findMany_of_some hsetting] at h ⊢
    rw [← Outcome.related.inj h]
    exact .joined (start_kind .manyToMany target field.settings) rfl ⟨⟨rfl, rfl⟩, ⟨rfl, rfl⟩⟩
  | none =>
    rw [findMany_of_none hsetting] at h ⊢
    obtain ⟨hkind, hkey⟩ := yields_of_heldByTarget h
    exact .theirs (Or.inr hkind) hkey

/-- A relationship is found only for a field that holds records, and its key is where it was found. -/
theorem related_of_find {side : ModelId → Side} {anonymous : Bool}
    (h : (find owner side field anonymous).outcome = .related r) :
    ∃ t, field.type.Holds t ∧
      Related owner (side t) (find owner side field anonymous).marks r := by
  rcases find_cases owner side field anonymous with
    ⟨⟨scanner, hfind⟩, -⟩ | ⟨t, ht, -, ⟨embeds, hfind⟩ | hfind⟩
  · rw [hfind] at h
    contradiction
  · rw [hfind] at h ⊢
    exact ⟨t, FieldType.associated?_eq_some_iff.mp ht, related_of_findOne h⟩
  · rw [hfind] at h ⊢
    exact ⟨t, FieldType.associated?_eq_some_iff.mp ht, related_of_findMany h⟩

end

end Resolution
end RecordMapping
