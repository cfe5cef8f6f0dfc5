import RecordMapping.FieldType

/-!
The types that are field types without further declaration.
-/

namespace RecordMapping
namespace FieldType

/-- The plain types whose full name is their short one. -/
def primitives : List String := [
  "bool", "char", "i8", "i16", "i32", "i64", "i128", "isize", "u8", "u16", "u32", "u64", "u128",
  "usize", "f32", "f64"]

/-- The other plain types with their full names. -/
def library : List (String × String) := [
  ("String", "alloc::string::String"),
  ("Value", "tagmodel_core::value::Value"),
  ("Json", "serde_json::value::Value")]

/-- The points in time with their full names. -/
def times : List (String × String) := [
  ("SystemTime", "std::time::SystemTime"),
  ("DateTimeUtc", "chrono::datetime::DateTime<chrono::offset::utc::Utc>"),
  ("NaiveDateTime", "chrono::naive::datetime::NaiveDateTime"),
  ("NaiveDate", "chrono::naive::date::NaiveDate"),
  ("NaiveTime", "chrono::naive::time::NaiveTime")]

/-- The field type of a type with a short name. -/
def builtin? (name : String) : Option FieldType :=
  if primitives.contains name then some (.scalar name)
  else ((library.lookup name).map .scalar).or ((times.lookup name).map .time)

/-- What can stand around a type. -/
inductive Wrapper where
  | optional
  | sequence
  /-- A value kept elsewhere counts as the value itself. -/
  | boxed
deriving DecidableEq, Repr

def wrap (t : FieldType) : Wrapper → FieldType
  | .optional => .optional t
  | .sequence => .sequence t
  | .boxed => t

/-- The type inside all wrappers, the first of them innermost. -/
def wrapAll (t : FieldType) (wrappers : List Wrapper) : FieldType := wrappers.foldl wrap t

end FieldType
end RecordMapping
