import RecordMapping.Settings

/-!
The annotations of a field.
-/

namespace RecordMapping

open Text

/-- The raw text of a field's two annotations, the one on its column in the database and the one on
its mapping. -/
structure Annotation where
  sql : String := ""
  mapping : String := ""
deriving DecidableEq, Repr, Inhabited

namespace Annotation

/-- A lone dash in either annotation keeps the field out of the mapping altogether. -/
def isExcluded (a : Annotation) : Bool := trim a.sql == "-" || trim a.mapping == "-"

def isEmpty (a : Annotation) : Bool := a.sql == "" && a.mapping == ""

def settings (a : Annotation) : Settings := Settings.ofSources [a.sql, a.mapping]

end Annotation
end RecordMapping
