import RecordMapping.Text.Blank
import RecordMapping.Text.CaseMap

/-!
Cutting a text at blanks and separators.
-/

namespace RecordMapping
namespace Text

/-- The text without the blanks at its two ends. -/
def trimmed (cs : List Char) : List Char :=
  ((cs.dropWhile isBlank).reverse.dropWhile isBlank).reverse

/-- The longest stretches without a blank. -/
def words (cs : List Char) : List (List Char) :=
  (cs.splitOnP isBlank).filter (!·.isEmpty)

/-- What stands before the first separator, and what stands after it if there is one. -/
def cut (sep : Char) (cs : List Char) : List Char × Option (List Char) :=
  (cs.takeWhile (· != sep), (cs.dropWhile (· != sep)).tail?)

def capitals (cs : List Char) : List Char := cs.flatMap raised

def trim (s : String) : String := String.ofList (trimmed s.toList)

def toUpper (s : String) : String := String.ofList (capitals s.toList)

/-- Equality of texts in which the 26 basic letters count the same in both cases. -/
def eqIgnoringCase (s t : List Char) : Bool := s.map Char.toLower == t.map Char.toLower

theorem cut_of_not_mem {sep : Char} {cs : List Char} (h : sep ∉ cs) : cut sep cs = (cs, none) := by
  induction cs with
  | nil => rfl
  | cons c rest ih =>
    obtain ⟨hc, hr⟩ := not_or.mp (mt List.mem_cons.mpr h)
    have := ih hr
    simp_all [cut, Ne.symm hc]

theorem cut_append_cons {sep : Char} {cs : List Char} (h : sep ∉ cs) (rest : List Char) :
    cut sep (cs ++ sep :: rest) = (cs, some rest) := by
  have hall : ∀ c ∈ cs, (c != sep) = true := fun c hc => by
    simp only [bne_iff_ne, ne_eq]
    rintro rfl
    exact h hc
  simp [cut, List.takeWhile_append_of_pos hall, List.dropWhile_append_of_pos hall]

end Text
end RecordMapping
