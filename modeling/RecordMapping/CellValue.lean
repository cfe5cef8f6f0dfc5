import RecordMapping.Json.Basic

/-!
Values of single columns, as they are read and stored.
-/

namespace RecordMapping

inductive CellValue where
  | null
  | bool (b : Bool)
  /-- An integer of 64 bits. -/
  | integer (i : Int)
  | double (x : Float)
  | text (s : String)
  | bytes (b : List UInt8)
deriving Inhabited

namespace CellValue

/-- The kind of a value, as errors name it. -/
def kind : CellValue → String
  | .null => "null"
  | .bool _ => "bool"
  | .integer _ => "integer"
  | .double _ => "double"
  | .text _ => "text"
  | .bytes _ => "bytes"

/-- The null value is also the default. -/
def isNull : CellValue → Bool
  | .null => true
  | _ => false

def text? : CellValue → Option String
  | .text s => some s
  | _ => none

def integer? : CellValue → Option Int
  | .integer i => some i
  | _ => none

/-! ## Reading a value -/

def integerOfJson? : Json → Option Int
  | .number n => n.integer?.filter fun i => i < Int.pow 2 63
  | _ => none

def doubleOfJson? : Json → Option Float
  | .number n => n.double?
  | _ => none

def byteOfJson? : Json → Option UInt8
  | .number n => (n.integer?.filter fun i => 0 ≤ i ∧ i < 256).map fun i => i.toNat.toUInt8
  | _ => none

/-- A value is written as an object whose one key is the value's kind.  The null value may also be
the bare word. -/
def ofJson? : Json → Option CellValue
  | .string "Null" => some .null
  | .object [("Null", .null)] => some .null
  | .object [("Bool", .bool b)] => some (.bool b)
  | .object [("BigInt", j)] => (integerOfJson? j).map .integer
  | .object [("Double", j)] => (doubleOfJson? j).map .double
  | .object [("Text", .string s)] => some (.text s)
  | .object [("Bytes", .array items)] => (items.mapM byteOfJson?).map .bytes
  | _ => none

end CellValue
end RecordMapping
