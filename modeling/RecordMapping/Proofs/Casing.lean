import Mathlib.Data.List.Basic
import RecordMapping.Text.Lowercase
import RecordMapping.Text.Uppercase
import RecordMapping.Text.Words

/-!
What case mappings leave behind.

Mapping a character to small letters gives characters that have no other small letters, and the same
holds of capitals, so that mapping twice is mapping once.  This is a property of the tables: no run of
code points that a mapping leads to meets a run that it changes.  Two runs are told apart by their ends
and by parity alone, and never by their members.
-/

namespace RecordMapping
namespace Text

/-! ## Runs that do not meet

`Nat.blt` stands for `<` where whole tables are compared, as the kernel computes it in one step. -/

namespace Run

/-- The run of a single code point. -/
def point (n : Nat) : Run := ⟨n, n, 1⟩

/-- All code points of the run are even, or all are odd. -/
def isSparse (r : Run) : Bool := r.step == 2 || r.first == r.last

/-- The code points of the two runs lie between each other. -/
def interleaves (r s : Run) : Bool :=
  r.isSparse && s.isSparse && (r.first + s.first) % 2 == 1

/-- No code point of the run is found in an ascending list. -/
def clears (r : Run) : List Run → Bool
  | [] => true
  | s :: rest => r.last.blt s.first || ((s.last.blt r.first || r.interleaves s) && r.clears rest)

/-- The code point is not in the run. -/
def excludes (r : Run) (n : Nat) : Bool := r.last.blt n || n.blt r.first || !r.covers n

/-- All code points of the run are characters. -/
def isScalar (r : Run) : Bool := r.last < 0xD800 || (0xDFFF < r.first && r.last < 0x110000)

theorem covers_iff {r : Run} {n : Nat} :
    r.covers n = true ↔ r.first ≤ n ∧ n ≤ r.last ∧ (n - r.first) % r.step = 0 := by
  simp [covers, and_assoc]

theorem covers_point (n : Nat) : (point n).covers n = true :=
  covers_iff.mpr ⟨Nat.le_refl n, Nat.le_refl n, Nat.mod_one _⟩

theorem mod_two_of_isSparse {r : Run} {n : Nat} (hr : r.isSparse = true) (h : r.covers n = true) :
    n % 2 = r.first % 2 := by
  obtain ⟨hfirst, hlast, hstep⟩ := covers_iff.mp h
  rw [isSparse, Bool.or_eq_true, beq_iff_eq, beq_iff_eq] at hr
  rcases hr with htwo | hpoint
  · rw [htwo] at hstep
    omega
  · obtain rfl : n = r.first := by omega
    rfl

theorem not_covers_of_interleaves {r s : Run} {n : Nat} (h : r.interleaves s = true)
    (hr : r.covers n = true) : s.covers n = false := by
  rw [interleaves, Bool.and_eq_true, Bool.and_eq_true, beq_iff_eq] at h
  obtain ⟨⟨hrsparse, hssparse⟩, hodd⟩ := h
  rw [← Bool.not_eq_true]
  intro hs
  have hrparity := mod_two_of_isSparse hrsparse hr
  have hsparity := mod_two_of_isSparse hssparse hs
  omega

theorem not_covers_of_excludes {r : Run} {n : Nat} (h : r.excludes n = true) :
    r.covers n = false := by
  rw [← Bool.not_eq_true, covers_iff]
  rintro ⟨hfirst, hlast, hstep⟩
  simp only [excludes, covers, Bool.or_eq_true, Nat.blt_eq] at h
  rcases h with (hbehind | hbefore) | hother
  · omega
  · omega
  · simp [hfirst, hlast, hstep] at hother

theorem anyCovers_of_clears {r : Run} {runs : List Run} {n : Nat} (h : r.clears runs = true)
    (hn : r.covers n = true) : anyCovers runs n = false := by
  obtain ⟨hfirst, hlast, -⟩ := covers_iff.mp hn
  induction runs with
  | nil => rfl
  | cons s rest ih =>
    rw [clears, Bool.or_eq_true, Bool.and_eq_true, Bool.or_eq_true, Nat.blt_eq, Nat.blt_eq] at h
    rw [anyCovers]
    split
    · rfl
    · have hrest := h.resolve_left (by omega)
      split
      · exact not_covers_of_interleaves (hrest.1.resolve_left (by omega)) hn
      · exact ih hrest.2

theorem isValidChar_of_isScalar {r : Run} {n : Nat} (h : r.isScalar = true)
    (hr : r.covers n = true) : n.isValidChar := by
  obtain ⟨hfirst, hlast, -⟩ := covers_iff.mp hr
  simp only [isScalar, Bool.or_eq_true, Bool.and_eq_true, decide_eq_true_eq] at h
  rcases h with hlow | ⟨hhigh, hmax⟩
  · exact Or.inl (by omega)
  · exact Or.inr ⟨by omega, by omega⟩

end Run

namespace Shift

/-- The code points that the shift leads to. -/
def imageRun (s : Shift) : Run := ⟨s.image, s.image + (s.last - s.first), s.step⟩

theorem covers_imageRun {s : Shift} {n : Nat} (h : s.run.covers n = true) :
    s.imageRun.covers (s.apply n) = true := by
  obtain ⟨hfirst, hlast, hstep⟩ := Run.covers_iff.mp h
  simp only [run] at hfirst hlast hstep
  simp only [Run.covers_iff, imageRun, apply]
  refine ⟨by omega, by omega, ?_⟩
  rw [Nat.add_sub_cancel_left]
  exact hstep

theorem find?_of_anyCovers {shifts : List Shift} {n : Nat}
    (h : Run.anyCovers (shifts.map run) n = false) : find? shifts n = none := by
  induction shifts with
  | nil => rfl
  | cons s rest ih =>
    have h : (if n < s.first then false
        else if n ≤ s.last then s.run.covers n else Run.anyCovers (rest.map run) n) = false := h
    rw [find?]
    split
    · rfl
    · next hfirst =>
      rw [if_neg hfirst] at h
      split
      · next hlast =>
        rw [if_pos hlast] at h
        rw [h]
        rfl
      · next hlast =>
        rw [if_neg hlast] at h
        exact ih h

end Shift

/-! ## Mappings -/

section

variable (spreads : List (Nat × List Nat)) (shifts : List Shift)

/-- The code points that the mapping leads to. -/
def images : List Run := shifts.map Shift.imageRun ++ spreads.flatMap fun p => p.2.map .point

/-- The mapping leads to characters, and to none that it changes. -/
def settles : Bool :=
  (images spreads shifts).all fun r =>
    r.isScalar && r.clears (shifts.map Shift.run) && spreads.all fun p => r.excludes p.1

variable {spreads shifts}

/-- The mapping leads to a single character or to some from its table. -/
theorem mapCase_cases (c : Char) :
    mapCase spreads shifts c = [c] ∨
      ∃ ns : List Nat, mapCase spreads shifts c = ns.map Char.ofNat ∧
        ∀ n ∈ ns, ∃ r ∈ images spreads shifts, r.covers n = true := by
  cases hshift : Shift.find? shifts c.toNat with
  | some n =>
    obtain ⟨s, hs, hcovers, rfl⟩ := Shift.exists_apply_of_find? hshift
    refine Or.inr ⟨[s.apply c.toNat], by rw [mapCase, hshift]; rfl, ?_⟩
    intro n hn
    rw [List.mem_singleton.mp hn]
    exact ⟨s.imageRun, List.mem_append_left _ (List.mem_map_of_mem hs), s.covers_imageRun hcovers⟩
  | none =>
    cases hspread : spreads.lookup c.toNat with
    | none => exact Or.inl (by rw [mapCase, hshift, hspread])
    | some ns =>
      refine Or.inr ⟨ns, by rw [mapCase, hshift, hspread], ?_⟩
      intro n hn
      obtain ⟨before, after, hsplit, -⟩ := List.lookup_eq_some_iff.mp hspread
      have hspreads : (c.toNat, ns) ∈ spreads := by
        rw [hsplit]
        exact List.mem_append_right _ List.mem_cons_self
      refine ⟨.point n, List.mem_append_right _ ?_, Run.covers_point n⟩
      exact List.mem_flatMap.mpr ⟨(c.toNat, ns), hspreads, List.mem_map_of_mem hn⟩

theorem mapCase_eq_self {r : Run} {d : Char} (hshifts : r.clears (shifts.map Shift.run) = true)
    (hspreads : spreads.all (fun p => r.excludes p.1) = true)
    (h : r.covers d.toNat = true) : mapCase spreads shifts d = [d] := by
  have hlookup : spreads.lookup d.toNat = none := by
    refine List.lookup_eq_none_iff.mpr fun p hp => ?_
    have hother := Run.not_covers_of_excludes (List.all_eq_true.mp hspreads p hp)
    rw [bne_iff_ne]
    intro heq
    rw [← heq, h] at hother
    contradiction
  rw [mapCase, Shift.find?_of_anyCovers (Run.anyCovers_of_clears hshifts h), hlookup]

section

variable (hsettles : settles spreads shifts = true) {c d : Char} (h : d ∈ mapCase spreads shifts c)

include hsettles h

/-- What a character is mapped to is the character itself or in the images. -/
theorem covers_of_mem_mapCase :
    mapCase spreads shifts c = [c] ∨ ∃ r ∈ images spreads shifts, r.covers d.toNat = true := by
  rcases mapCase_cases c with hself | ⟨ns, hmap, hns⟩
  · exact Or.inl hself
  · rw [hmap] at h
    obtain ⟨n, hn, rfl⟩ := List.mem_map.mp h
    obtain ⟨r, hr, hcovers⟩ := hns n hn
    have hscalar := List.all_eq_true.mp hsettles r hr
    rw [Bool.and_eq_true, Bool.and_eq_true] at hscalar
    refine Or.inr ⟨r, hr, ?_⟩
    rw [Char.ofNat, dif_pos (Run.isValidChar_of_isScalar hscalar.1.1 hcovers)]
    exact hcovers

theorem mapCase_of_mem_mapCase : mapCase spreads shifts d = [d] := by
  rcases covers_of_mem_mapCase hsettles h with hself | ⟨r, hr, hcovers⟩
  · rw [hself, List.mem_singleton] at h
    rw [h, hself]
  · have hclears := List.all_eq_true.mp hsettles r hr
    rw [Bool.and_eq_true, Bool.and_eq_true] at hclears
    exact mapCase_eq_self hclears.1.2 hclears.2 hcovers

/-- A mapping whose images do not meet some runs leads into these from nowhere but there. -/
theorem mapCase_of_anyCovers {runs : List Run}
    (hclears : (images spreads shifts).all (·.clears runs) = true)
    (hd : Run.anyCovers runs d.toNat = true) : mapCase spreads shifts c = [c] := by
  rcases covers_of_mem_mapCase hsettles h with hself | ⟨r, hr, hcovers⟩
  · exact hself
  · rw [Run.anyCovers_of_clears (List.all_eq_true.mp hclears r hr) hcovers] at hd
    contradiction

end

theorem mapCase_ne_nil (hspreads : ∀ p ∈ spreads, p.2 ≠ []) (c : Char) :
    mapCase spreads shifts c ≠ [] := by
  unfold mapCase
  split
  · exact List.cons_ne_nil _ _
  · split
    · next ns hspread =>
      obtain ⟨before, after, hsplit, -⟩ := List.lookup_eq_some_iff.mp hspread
      intro hnil
      refine hspreads (c.toNat, ns) ?_ (List.map_eq_nil_iff.mp hnil)
      rw [hsplit]
      exact List.mem_append_right _ List.mem_cons_self
    · exact List.cons_ne_nil _ _

end

/-! ## Small letters -/

theorem settles_lower : settles lowerSpreads lowerShifts = true := by decide +kernel

theorem lowered_of_mem_lowered {c d : Char} (h : d ∈ lowered c) : lowered d = [d] :=
  mapCase_of_mem_mapCase settles_lower h

/-- Only a capital that has no small letter is mapped to a capital. -/
theorem lowered_of_isUppercase {c d : Char} (h : d ∈ lowered c) (hd : isUppercase d = true) :
    lowered c = [c] :=
  mapCase_of_anyCovers settles_lower h (by decide +kernel) hd

theorem lowered_ne_nil (c : Char) : lowered c ≠ [] := mapCase_ne_nil (by decide) c

theorem underscore_mem_lowered_iff {c : Char} : '_' ∈ lowered c ↔ c = '_' := by
  constructor
  · intro h
    have hcovers : Run.anyCovers [.point 0x5F] '_'.toNat = true := by decide
    have hself : lowered c = [c] :=
      mapCase_of_anyCovers settles_lower h (by decide +kernel) hcovers
    rw [hself] at h
    exact (List.mem_singleton.mp h).symm
  · rintro rfl
    decide +kernel

/-! ## Capitals -/

theorem settles_upper : settles upperSpreads upperShifts = true := by decide +kernel

theorem raised_of_mem_raised {c d : Char} (h : d ∈ raised c) : raised d = [d] :=
  mapCase_of_mem_mapCase settles_upper h

theorem isBlank_of_mem_raised {c d : Char} (h : d ∈ raised c) (hd : isBlank d = true) :
    isBlank c = true := by
  have hself : raised c = [c] := mapCase_of_anyCovers settles_upper h (by decide +kernel) hd
  rw [hself, List.mem_singleton] at h
  rwa [← h]

theorem raised_ne_nil (c : Char) : raised c ≠ [] := mapCase_ne_nil (by decide +kernel) c

theorem capitals_capitals (cs : List Char) : capitals (capitals cs) = capitals cs := by
  rw [capitals, capitals, List.flatMap_assoc]
  apply List.flatMap_congr
  intro c _
  calc (raised c).flatMap raised
    _ = (raised c).flatMap fun d => [d] := List.flatMap_congr fun d hd => raised_of_mem_raised hd
    _ = raised c := List.flatMap_singleton' _

end Text
end RecordMapping
