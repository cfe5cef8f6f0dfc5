import RecordMapping.Text.CaseMap
import RecordMapping.Text.Lowercase
import RecordMapping.Text.Uppercase

/-!
Names of columns and tables.

A column is named after its field in small letters, with an underscore where a word of the field's
name starts.  A table is named after the record type in the same way, and in the plural unless the
configuration keeps tables singular.
-/

namespace RecordMapping
namespace Naming

open Text

/-! ## Columns -/

/-- A capital starts a word after a small letter or a digit, and as the last capital of an acronym
that a small letter follows: `userID` has the words `user` and `ID`, `HTTPServer` has `HTTP` and
`Server`. -/
def startsWord (before : Option Char) (c : Char) (after : Option Char) : Bool :=
  isUppercase c &&
    match before with
    | none => false
    | some b => isLowercase b || b.isDigit || (isUppercase b && after.any isLowercase)

/-- The words of `cs` in small letters, one underscore before each but the first.  `before` is the
character in front of `cs`. -/
def separated (before : Option Char) : List Char → List Char
  | [] => []
  | c :: rest =>
    (if startsWord before c rest.head? then ['_'] else []) ++ lowered c ++ separated (some c) rest

def columnName (name : String) : String := String.ofList (separated none name.toList)

@[simp]
theorem toList_columnName (name : String) :
    (columnName name).toList = separated none name.toList := String.toList_ofList

/-! ## Tables -/

/-- One place of a pattern. -/
inductive Place where
  | exactly (c : Char)
  | otherThan (c : Char)
  /-- The character may be missing. -/
  | maybe (c : Char)
deriving DecidableEq, Repr

/-- Whether a pattern describes a text from its first character to its last. -/
def describes : List Place → List Char → Bool
  | [], cs => cs.isEmpty
  | .exactly c :: places, d :: rest => d == c && describes places rest
  | .otherThan c :: places, d :: rest => d != c && describes places rest
  | .maybe c :: places, d :: rest =>
    (d == c && describes places rest) || describes places (d :: rest)
  | .maybe _ :: places, [] => describes places []
  | _ :: _, [] => false

/-- The ending of a name that `pattern` describes keeps its first `kept` characters, and `plural`
takes the place of the others. -/
structure PluralRule where
  pattern : List Place
  kept : Nat := 0
  plural : String
deriving DecidableEq, Repr

namespace PluralRule

def letters (s : String) : List Place := s.toList.map .exactly

/-- The rules in the order in which they are tried. -/
def all : List PluralRule := [
  { pattern := letters "ch", plural := "ches" },
  { pattern := letters "ss", plural := "sses" },
  { pattern := letters "sh", plural := "shes" },
  { pattern := letters "day", plural := "days" },
  { pattern := letters "y", plural := "ies" },
  { pattern := letters "x", plural := "xes" },
  { pattern := [.otherThan 's', .exactly 's'], kept := 1, plural := "sses" },
  { pattern := [.otherThan 's', .maybe 's'], kept := 1, plural := "s" }]

/-- The name with the longest ending rewritten that the pattern describes, if it describes any. -/
def rewritten? (rule : PluralRule) : List Char → Option (List Char)
  | [] => if describes rule.pattern [] then some rule.plural.toList else none
  | c :: rest =>
    if describes rule.pattern (c :: rest) then
      some ((c :: rest).take rule.kept ++ rule.plural.toList)
    else (rule.rewritten? rest).map (c :: ·)

end PluralRule

/-- The first rule that applies is applied once.  A name that no rule fits is its own plural. -/
def pluralized (name : List Char) : List Char :=
  (PluralRule.all.findSome? (·.rewritten? name)).getD name

def plural (name : String) : String := String.ofList (pluralized name.toList)

/-- The name of the table for records of a type. -/
def tableName (typeName : String) (singular : Bool) : String :=
  if singular then columnName typeName else plural (columnName typeName)

end Naming
end RecordMapping
