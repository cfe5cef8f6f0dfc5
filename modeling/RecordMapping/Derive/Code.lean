import RecordMapping.Derive.Definition
import RecordMapping.Text.Quoted

/-!
The source code that declares a model, as text with one blank between two tokens.
-/

namespace RecordMapping
namespace Derive

/-- Tokens with a blank between two of them. -/
def spaced (parts : List String) : String := " ".intercalate parts

def boolToken (b : Bool) : String := if b then "true" else "false"

/-- Tokens in braces. -/
def block (parts : List String) : String := spaced (["\x7b"] ++ parts ++ ["\x7d"])

def FieldDefinition.code (f : FieldDefinition) : String :=
  ". field (:: tagmodel_core :: FieldDescriptor :: new (" ++ Text.literal f.name ++ " , < " ++
    f.type ++ " as :: tagmodel_core :: Reflect > :: field_type () ,) . sql (" ++
    Text.literal f.annotation.sql ++ ") . tagmodel (" ++ Text.literal f.annotation.mapping ++
    ") . exported (" ++ boolToken f.exported ++ ") . anonymous (" ++ boolToken f.anonymous ++ "))"

/-- The name of the type's table. -/
def TableSource.typeCode : TableSource → List String
  | .derived => []
  | .literal name => [". table_name (" ++ Text.literal name ++ ")"]
  | .capability => [
    ". table_name (:: tagmodel_core :: TableName :: table_name " ++
      "(& < Self as :: core :: default :: Default > :: default () ,))"]

/-- The name of a record's own table. -/
def TableSource.recordCode : TableSource → List String
  | .derived | .literal _ => []
  | .capability => [
    "fn table_name (& self) -> :: core :: option :: Option < :: std :: string :: String >",
    block [":: core :: option :: Option :: Some (:: tagmodel_core :: TableName :: table_name (self))"]]

def Definition.code (d : Definition) : String :=
  spaced [
    "impl :: tagmodel_core :: Model for", d.name,
    block ([
      "const NAME : & 'static str =", Text.literal (plainName d.name), ";",
      "fn describe () -> :: tagmodel_core :: ModelDescriptor",
      block ([":: tagmodel_core :: ModelDescriptor :: new :: < Self > ()"] ++ d.table.typeCode ++
        d.fields.map (·.code))] ++
      d.table.recordCode),
    "impl :: tagmodel_core :: Reflect for", d.name,
    block [
      "fn field_type () -> :: tagmodel_core :: FieldType",
      block [":: tagmodel_core :: FieldType :: model :: < Self > ()"]]]

end Derive
end RecordMapping
