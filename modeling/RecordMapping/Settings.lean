import RecordMapping.Text.Words

/-!
Settings read from annotations.

An annotation is a list of settings separated by semicolons, each a key alone or a key and a value
around the first colon.  Reading never fails.  A key that is given several times, in one annotation
or in several, has all its values in order with colons between them, which is how a setting such as
the unique index groups lists several entries.
-/

namespace RecordMapping

open Text

/-- The values under each key, in ascending order of keys. -/
structure Settings where
  entries : List (String × String) := []
deriving DecidableEq, Repr, Inhabited

namespace Settings

/-- Keys are compared without surrounding blanks and in capitals. -/
def normalKey (key : String) : String := toUpper (trim key)

/-- A key with its value.  A key that stands alone is its own value. -/
def segment (text : List Char) : String × String :=
  let (key, value?) := cut ':' text
  let key := normalKey (String.ofList key)
  (key, (value?.map String.ofList).getD key)

/-- The settings of one annotation in order, without those whose key is empty. -/
def segments (source : String) : List (String × String) :=
  ((source.toList.splitOn ';').map segment).filter (·.1 ≠ "")

/-- Put a value under a key, behind the values it already has. -/
def add (key value : String) : List (String × String) → List (String × String)
  | [] => [(key, value)]
  | (k, v) :: rest =>
    if key < k then (key, value) :: (k, v) :: rest
    else if key = k then (k, v ++ ":" ++ value) :: rest
    else (k, v) :: add key value rest

def ofSegments (segs : List (String × String)) : Settings :=
  ⟨segs.foldl (fun entries seg => add seg.1 seg.2 entries) []⟩

/-- The settings of several annotations, read one after the other. -/
def ofSources (sources : List String) : Settings := ofSegments (sources.flatMap segments)

def get? (s : Settings) (key : String) : Option String := s.entries.lookup (normalKey key)

/-- The value under a key, unless it is empty. -/
def nonEmpty? (s : Settings) (key : String) : Option String := (s.get? key).filter (· ≠ "")

def contains (s : Settings) (key : String) : Bool := (s.get? key).isSome

def size (s : Settings) : Nat := s.entries.length

def isEmpty (s : Settings) : Bool := s.entries.isEmpty

@[simp]
theorem get?_empty (key : String) : (⟨[]⟩ : Settings).get? key = none := rfl

theorem ofSegments_append (a b : List (String × String)) :
    (ofSegments (a ++ b)).entries =
      b.foldl (fun entries seg => add seg.1 seg.2 entries) (ofSegments a).entries := by
  simp [ofSegments]

theorem lookup_add_of_ne {key k : String} (h : k ≠ key) (value : String)
    (entries : List (String × String)) :
    (add key value entries).lookup k = entries.lookup k := by
  have hk : (k == key) = false := beq_eq_false_iff_ne.mpr h
  induction entries with
  | nil => simp [add, List.lookup_cons, hk]
  | cons e rest ih =>
    obtain ⟨k', v⟩ := e
    unfold add
    split
    · simp [List.lookup_cons, hk]
    · split
      · rename_i heq
        subst heq
        simp [List.lookup_cons, hk]
      · simp only [List.lookup_cons, ih]

end Settings
end RecordMapping
