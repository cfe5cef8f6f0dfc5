import RecordMapping.Derive.Item

/-!
Arguments in the parentheses of an attribute.

They are read one by one, and what reads an argument may refuse it before its end is looked at.

The functions of this module follow the attribute-parsing library that the deriving macro calls, whose
code is not in the repository.
-/

namespace RecordMapping
namespace Derive

inductive DeriveError where
  | generic
  | enumeration
  | union
  /-- The fields have no names. -/
  | unnamedFields
  /-- An annotation without its text. -/
  | noValue (path : String)
  /-- Something else stands where the sign before a value has to. -/
  | noEquals
  /-- The value of an annotation is no string literal. -/
  | annotationLiteral
  | fieldForm
  | fieldArgument
  /-- The item's attribute has no arguments. -/
  | noArguments
  /-- The item's attribute has a value in place of arguments. -/
  | valueForArguments
  | itemArgument
  /-- The name of the table is no string literal. -/
  | tableLiteral
  /-- An argument goes on where it has to end. -/
  | noComma
  /-- No argument stands where one has to. -/
  | noArgument
  /-- An argument starts with a literal. -/
  | literalArgument
  /-- An argument starts with a sign. -/
  | signArgument
  /-- Nothing follows the mark between segments of a path. -/
  | noSegment
  /-- The code ends where this is wrong. -/
  | atEnd (e : DeriveError)
deriving DecidableEq, Repr

def DeriveError.message : DeriveError → String
  | .generic => "Model cannot be derived for generic structs"
  | .enumeration => "Model can only be derived for structs, not enums"
  | .union => "Model can only be derived for structs, not unions"
  | .unnamedFields => "Model requires a struct with named fields"
  | .noValue path => "expected a value for this attribute: `" ++ path ++ " = ...`"
  | .noEquals => "expected `=`"
  | .annotationLiteral => "expected a string literal"
  | .fieldForm => "expected #[tagmodel = \"...\"] or #[tagmodel(embed)]"
  | .fieldArgument => "unknown tagmodel field attribute. Expected `embed`"
  | .noArguments => "expected attribute arguments in parentheses: #[tagmodel(...)]"
  | .valueForArguments => "expected parentheses: #[tagmodel(...)]"
  | .itemArgument => "unknown tagmodel attribute. Valid attributes are: table, table_name"
  | .tableLiteral => "expected string literal"
  | .noComma => "expected `,`"
  | .noArgument => "expected nested attribute"
  | .literalArgument => "unexpected literal in nested attribute, expected ident"
  | .signArgument => "unexpected token in nested attribute, expected ident"
  | .noSegment => "expected ident"
  | .atEnd e => "unexpected end of input, " ++ e.message

/-- An argument whose path has been read. -/
structure Argument where
  /-- A path of several segments has no name. -/
  name? : Option String
  /-- The code behind the path. -/
  code : List Token
  /-- Whether it is the last one. -/
  isLast : Bool
deriving DecidableEq, Repr

/-- The code behind the further segments of a path. -/
def skipSegments (isLast : Bool) : List Token → Except DeriveError (List Token)
  | .colons :: .name _ :: rest => skipSegments isLast rest
  | [.colons] => .error (if isLast then .atEnd .noSegment else .noSegment)
  | .colons :: _ => .error .noSegment
  | code => .ok code

/-- What is wrong with an argument that starts with no name.  A comma follows all but the last. -/
def startError (isLast : Bool) : List Token → DeriveError
  | [] => if isLast then .atEnd .noArgument else .signArgument
  | .text _ :: _ | .number :: _ | .literal :: _ | .sign '-' :: .number :: _ => .literalArgument
  | _ => .signArgument

def Argument.read (isLast : Bool) (code : List Token) : Except DeriveError Argument :=
  match code with
  | .name _ :: .colons :: rest => do
    return { name? := none, code := ← skipSegments isLast (.colons :: rest), isLast }
  | .name name :: rest => .ok { name? := some name, code := rest, isLast }
  | .colons :: .name _ :: rest => do
    return { name? := none, code := ← skipSegments isLast rest, isLast }
  | .colons :: rest => .error (startError isLast rest)
  | code => .error (startError isLast code)

/-- Takes all arguments in turn.  A comma may stand behind the last, and what is not taken of one is
superfluous. -/
def foldArguments {σ : Type} (take : σ → Argument → Except DeriveError (σ × List Token)) :
    σ → List (List Token) → Except DeriveError σ
  | s, [] => .ok s
  | s, [[]] => .ok s
  | s, code :: rest => do
    let (s, left) ← take s (← Argument.read rest.isEmpty code)
    if left.isEmpty then foldArguments take s rest else throw .noComma

end Derive
end RecordMapping
