import RecordMapping.Derive.Attribute

/-!
Items of source code from which declarations of models are derived.
-/

namespace RecordMapping
namespace Derive

structure FieldItem where
  /-- A field by position has none. -/
  name? : Option String
  type : String
  /-- What is written before the name. -/
  visibility : List Token := []
  attributes : List Attribute := []
deriving DecidableEq, Repr

inductive Shape where
  | named
  | tuple
  | unit
  | enumeration
  | union
deriving DecidableEq, Repr

structure Item where
  shape : Shape
  name : String
  /-- What is written between the name and the fields. -/
  generics : List Token := []
  attributes : List Attribute := []
  fields : List FieldItem := []
deriving DecidableEq, Repr

/-- Parameters stand in angle brackets.  The brackets may hold none, and conditions may stand where
they would. -/
def Item.isGeneric (i : Item) : Bool :=
  match i.generics with
  | .sign '<' :: rest => rest.head? != some (.sign '>')
  | _ => false

/-- Any visibility but the private one, which is written by writing none. -/
def FieldItem.isExported (f : FieldItem) : Bool := !f.visibility.isEmpty

/-- A field whose visibility further attributes may precede. -/
def FieldItem.ofCode (name? : Option String) (type : String) (attributes : List Attribute)
    (code : List Token) : FieldItem :=
  let (further, visibility) := leadingAttributes code
  { name?, type, visibility, attributes := attributes ++ further }

/-- The identifier that a text consists of, without the layout around it. -/
def identifier (text : String) : String :=
  match tokens text with
  | [.name name] => name
  | _ => text

/-- An identifier without the mark that lets it look like a keyword. -/
def plainName (name : String) : String :=
  match name.toList with
  | 'r' :: '#' :: rest => String.ofList rest
  | _ => name

end Derive
end RecordMapping
