/-!
Sets of characters and maps between them, given by the code points they cover.

A property of characters is a list of runs in ascending order.  Alternating capitals and small
letters make runs of step two common, and counting each as one run keeps the tables short.
-/

namespace RecordMapping
namespace Text

/-- The code points `first`, `first + step`, …, `last`. -/
structure Run where
  first : Nat
  last : Nat
  step : Nat
deriving DecidableEq, Repr

namespace Run

def covers (r : Run) (n : Nat) : Bool :=
  r.first ≤ n && n ≤ r.last && (n - r.first) % r.step == 0

/-- Whether a run of an ascending list covers `n`.  The search ends at the first run that reaches
`n` or starts beyond it. -/
def anyCovers : List Run → Nat → Bool
  | [], _ => false
  | r :: rest, n =>
    if n < r.first then false
    else if n ≤ r.last then r.covers n
    else anyCovers rest n

end Run

/-- The code points of a run, each sent as far above `image` as it lies above `first`. -/
structure Shift where
  first : Nat
  last : Nat
  step : Nat
  image : Nat
deriving DecidableEq, Repr

namespace Shift

def run (s : Shift) : Run := ⟨s.first, s.last, s.step⟩

def apply (s : Shift) (n : Nat) : Nat := s.image + (n - s.first)

/-- The image of `n` under the shift of an ascending list that covers it. -/
def find? : List Shift → Nat → Option Nat
  | [], _ => none
  | s :: rest, n =>
    if n < s.first then none
    else if n ≤ s.last then
      if s.run.covers n then some (s.apply n) else none
    else find? rest n

theorem exists_apply_of_find? {shifts : List Shift} {n m : Nat} (h : find? shifts n = some m) :
    ∃ s ∈ shifts, s.run.covers n = true ∧ s.apply n = m := by
  induction shifts with
  | nil => simp [find?] at h
  | cons s rest ih =>
    unfold find? at h
    split at h
    · simp at h
    · split at h
      · split at h
        · rename_i hc
          exact ⟨s, List.mem_cons_self, hc, by simpa using h⟩
        · simp at h
      · obtain ⟨s', hs', hc⟩ := ih h
        exact ⟨s', List.mem_cons_of_mem _ hs', hc⟩

end Shift
end Text
end RecordMapping
