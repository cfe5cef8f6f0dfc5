import RecordMapping.Number.Numeral

/-!
JSON values.
-/

namespace RecordMapping

/-- A JSON value.  An object keeps the order of its members. -/
inductive Json where
  | null
  | bool (b : Bool)
  | number (n : Number.Numeral)
  | string (s : String)
  | array (items : List Json)
  | object (members : List (String × Json))
deriving Inhabited

namespace Json

def ofNat (n : Nat) : Json := .number (.ofNat n)

def ofInt (i : Int) : Json := .number (.ofInt i)

def ofOption {α : Type} (f : α → Json) : Option α → Json
  | none => .null
  | some a => f a

def strings (ss : List String) : Json := .array (ss.map .string)

end Json
end RecordMapping
