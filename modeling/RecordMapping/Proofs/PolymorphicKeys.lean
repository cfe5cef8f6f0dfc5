import RecordMapping.Proofs.Findings

/-!
Polymorphic keys.

A polymorphic relationship has a pair of fields in the other model, one that refers to the owner and
one that names its type.  The type stays with the relationship whatever becomes of its key.  The key
is the paired one only if the other model has no field under the key that the relationship looks
for.
-/

namespace RecordMapping

open Resolution

namespace Relationship

/-- The relationship has the type of the pair with this name, and the key that is looked for before
the key of the pair.  Fields are found by `find?`. -/
structure Pairs (r : Relationship) (find? : String → Option KeyRef) (key name : String) : Prop where
  type : (find? (name ++ "Type")).isSome ∧ r.polymorphicType? = find? (name ++ "Type")
  id : (find? (name ++ "Id")).isSome
  foreignKey : (find? key).or (find? (name ++ "Id")) = some r.foreignKey

/-- The relationship of the model `a` at place `i`, whose field has these settings, with the model
`b` at place `j`. -/
structure IsPaired (s : Schema) (i : Nat) (a : Model) (settings : Settings) (name : String)
    (r : Relationship) (j : Nat) (b : Model) : Prop where
  earlier : ¬ s.Reaches b.id a.id → j < i
  ended : j < i →
    r.Pairs (fun key => (b.answering? key).map Field.keyRef) (settings.theirKey (s.name a.id)) name
  opened : i ≤ j →
    r.Pairs (fun key => (s.firstMatch? b.id key).map (·.ref)) (settings.theirKey (s.name a.id)) name

end Relationship

namespace Resolution

section

variable {target : Side} {settings : Settings} {name : String}

/-- There is a pair if the target has both fields. -/
theorem locate?_of_polymorphicPair? {id type : Located}
    (hname : settings.nonEmpty? "POLYMORPHIC" = some name)
    (h : polymorphicPair? target settings = some (id, type)) :
    target.view.locate? (name ++ "Id") = some id ∧
      target.view.locate? (name ++ "Type") = some type := by
  simp only [polymorphicPair?, Option.bind_eq_bind, Option.bind_eq_some_iff] at h
  obtain ⟨name', hname', id', hid, type', htype, heq⟩ := h
  obtain ⟨rfl, rfl⟩ := Prod.mk.inj (Option.some.inj heq)
  obtain rfl : name = name' := Option.some.inj (hname.symm.trans hname')
  exact ⟨hid, htype⟩

theorem pairs_of_heldByTarget {kind : Relationship.Kind} {foreignKey : String} {r : Relationship}
    (h : (heldByTarget kind target settings foreignKey).outcome = .related r)
    (hpolymorphic : r.isPolymorphic = true)
    (hname : settings.nonEmpty? "POLYMORPHIC" = some name) :
    r.Pairs (fun key => (target.view.locate? key).map (·.ref)) foreignKey name := by
  have hr := eq_of_heldByTarget h
  cases hpair : polymorphicPair? target settings with
  | none =>
    rw [start_of_none hpair] at hr
    rw [hr] at hpolymorphic
    contradiction
  | some pair =>
    obtain ⟨id, type⟩ := pair
    rw [start_of_some hpair] at hr
    obtain ⟨hid, htype⟩ := locate?_of_polymorphicPair? hname hpair
    refine ⟨?_, ?_, ?_⟩
    · rw [htype, hr]
      exact ⟨rfl, rfl⟩
    · rw [hid]
      rfl
    · rw [hid, hr]
      cases target.view.locate? foreignKey with
      | some found => rfl
      | none => rfl

end

end Resolution

namespace Registry

/-- After any session, a polymorphic relationship that a stored model declares, with its key in the
other model, has the type of its pair.  Its key is the first field under `FOREIGNKEY`, or under the
model's name with `Id`, and only without such a field that of the pair.  The other model is looked
through as it is published if it had ended, and else as it is declared. -/
theorem isPaired_session (s : Schema) (c : Config) (qs : List Request) (i : Nat) (a : Model)
    (ha : (serveAll s { config := c } qs).models[i]? = some a) (x : Field) (hx : x ∈ a.fields)
    (hown : x.IsOwn) (rel : Relationship) (hrel : x.relationship? = some rel)
    (hkind : rel.kind = .hasOne ∨ rel.kind = .hasMany) (hpolymorphic : rel.isPolymorphic = true)
    (name : String) (hname : x.settings.nonEmpty? "POLYMORPHIC" = some name) :
    ∃ j b, (serveAll s { config := c } qs).models[j]? = some b ∧ x.type.Holds b.id ∧
      rel.IsPaired s i a x.settings name j b := by
  have hoccurs := occurs_session s c qs
  obtain ⟨j, b, v, hb, hholds, hseen, hfound⟩ := exists_foundBy hoccurs ha hx hown hrel
  have hpairs := pairs_of_heldByTarget (hfound.heldByTarget hkind) hpolymorphic hname
  refine ⟨j, b, hb, hholds, hseen.lt_of_not_reaches, ?_, ?_⟩
  · intro hlt
    rw [← hseen.locate?_of_lt hlt]
    exact hpairs
  · intro hle
    rw [← hseen.locate?_of_le hle]
    exact hpairs

/-- Users with emails of three kinds, and authors with letters.  An email names its owner and the
owner's type, and knows its user and its author besides.  A letter embeds its envelope, which names
an owner too. -/
def mailboxes : Schema :=
  let number : FieldType := .scalar "i64"
  let emails : FieldType := .sequence (.model 1)
  { declarations :=
      [{ name := "User"
         fields :=
          [{ name := "Id", type := number },
           { name := "Emails", type := emails, annotation := { mapping := "polymorphic:Owner" } },
           { name := "Drafts", type := emails
             annotation := { mapping := "polymorphic:Owner;foreignkey:AuthorId" } },
           { name := "Copies", type := emails
             annotation := { mapping := "polymorphic:Owner;foreignkey:ReaderId" } }] },
       { name := "Email"
         fields :=
          [{ name := "OwnerId", type := number }, { name := "OwnerType", type := .scalar "String" },
           { name := "UserId", type := number }, { name := "AuthorId", type := number }] },
       { name := "Letter"
         fields :=
          [{ name := "Envelope", type := .model 4, annotation := { mapping := "embedded" } },
           { name := "Author", type := .model 3 },
           { name := "OwnerId", type := number },
           { name := "OwnerType", type := .scalar "String" }] },
       { name := "Author"
         fields :=
          [{ name := "Id", type := number },
           { name := "Letters", type := .sequence (.model 2)
             annotation := { mapping := "polymorphic:Owner" } }] },
       { name := "Envelope"
         fields :=
          [{ name := "OwnerId", type := number
             annotation := { mapping := "column:envelope_owner" } }] }] }

/-- The copies of a user have the key of the pair. -/
theorem isPaired_session_mailboxes :
    ∃ a, (serveAll mailboxes {} [.get 0]).models[1]? = some a ∧
      ∃ x ∈ a.fields, x.name = "Copies" ∧ x.IsOwn ∧ ∃ rel, x.relationship? = some rel ∧
        rel.kind = .hasMany ∧ rel.isPolymorphic = true ∧ rel.foreignKey.column = "owner_id" ∧
        x.settings.nonEmpty? "POLYMORPHIC" = some "Owner" ∧
        ∃ j b, (serveAll mailboxes {} [.get 0]).models[j]? = some b ∧ x.type.Holds b.id ∧
          rel.IsPaired mailboxes 1 a x.settings "Owner" j b := by
  have hmodel : ((serveAll mailboxes {} [.get 0]).models[1]?.bind fun a =>
      a.fields[3]?.bind fun x => x.relationship?.map fun rel =>
        (x.name, x.path.length, x.settings.nonEmpty? "POLYMORPHIC", rel.kind, rel.isPolymorphic,
          rel.foreignKey.column)) =
      some ("Copies", 1, some "Owner", .hasMany, true, "owner_id") := by decide +kernel
  obtain ⟨a, ha, hfield⟩ := Option.bind_eq_some_iff.mp hmodel
  obtain ⟨x, hx, hrelated⟩ := Option.bind_eq_some_iff.mp hfield
  obtain ⟨rel, hrel, heq⟩ := Option.map_eq_some_iff.mp hrelated
  simp only [Prod.mk.injEq] at heq
  obtain ⟨hcopies, hown, hname, hkind, hpolymorphic, hcolumn⟩ := heq
  have hmem := List.mem_of_getElem? hx
  exact ⟨a, ha, x, hmem, hcopies, hown, rel, hrel, hkind, hpolymorphic, hcolumn, hname,
    isPaired_session mailboxes {} [.get 0] 1 a ha x hmem hown rel hrel (Or.inr hkind) hpolymorphic
      "Owner" hname⟩

/-- The drafts and the letters have the type of their pair, but not its key.  The drafts ask for
another one.  The letter was open when its author was resolved, so that the owner on the envelope
was not seen, though it comes first. -/
theorem foreignKey_ne_pair_mailboxes :
    (∃ a ∈ (serveAll mailboxes {} [.get 0, .get 2]).models,
      ∃ b ∈ (serveAll mailboxes {} [.get 0, .get 2]).models,
        (b.answering? "OwnerId").map (·.column) = some "owner_id" ∧
        ∃ x ∈ a.fields, x.name = "Drafts" ∧ x.IsOwn ∧ x.type = .sequence (.model b.id) ∧
          x.settings.nonEmpty? "POLYMORPHIC" = some "Owner" ∧
          x.relationship? = some {
            kind := .hasMany
            foreignKey := ⟨"AuthorId", "author_id"⟩
            polymorphicType? := some ⟨"OwnerType", "owner_type"⟩ }) ∧
    ∃ a ∈ (serveAll mailboxes {} [.get 0, .get 2]).models,
      ∃ b ∈ (serveAll mailboxes {} [.get 0, .get 2]).models,
        (b.answering? "OwnerId").map (·.column) = some "envelope_owner" ∧
        ∃ x ∈ a.fields, x.name = "Letters" ∧ x.IsOwn ∧ x.type = .sequence (.model b.id) ∧
          x.settings.nonEmpty? "POLYMORPHIC" = some "Owner" ∧
          x.relationship? = some {
            kind := .hasMany
            foreignKey := ⟨"OwnerId", "owner_id"⟩
            polymorphicType? := some ⟨"OwnerType", "owner_type"⟩ } := by
  decide +kernel

end Registry
end RecordMapping
