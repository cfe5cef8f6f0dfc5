import Mathlib.Data.List.Induction
import RecordMapping.Column
import RecordMapping.Proofs.Casing

/-!
Columns that a field can use as they are.

The definition of a field is compared with that of a column word by word up to the end of the
shorter one, which asks whether one of them starts with the words of the other.  So the blanks between
the words do not count, and neither does the case of a letter, as no letter has a blank in its place.
-/

namespace RecordMapping
namespace Text

/-! ## Words -/

/-- These words stand in the text in this order, each of them as long as it can be, and with nothing
but blanks around them. -/
inductive Spells : List Char → List (List Char) → Prop
  | nothing : Spells [] []
  | blank {b : Char} {cs : List Char} {ws : List (List Char)} (hb : isBlank b = true)
      (h : Spells cs ws) : Spells (b :: cs) ws
  | word {w cs : List Char} {ws : List (List Char)} (hne : w ≠ [])
      (hw : ∀ c ∈ w, isBlank c = false) (hend : ∀ c, cs.head? = some c → isBlank c = true)
      (h : Spells cs ws) : Spells (w ++ cs) (w :: ws)

theorem words_append_blank {b : Char} (hb : isBlank b = true) (cs ds : List Char) :
    words (cs ++ b :: ds) = words cs ++ words ds := by
  rw [words, List.splitOnP_append_cons _ _ hb, List.filter_append]
  rfl

theorem words_blank {b : Char} (hb : isBlank b = true) (cs : List Char) :
    words (b :: cs) = words cs :=
  words_append_blank hb [] cs

theorem words_of_no_blank {w : List Char} (hne : w ≠ []) (hw : ∀ c ∈ w, isBlank c = false) :
    words w = [w] := by
  rw [words, List.splitOnP_eq_singleton hw]
  simp [hne]

theorem Spells.words_eq {cs : List Char} {ws : List (List Char)} (h : Spells cs ws) :
    words cs = ws := by
  induction h with
  | nothing => rfl
  | blank hb _ ih => rw [words_blank hb, ih]
  | @word w cs ws hne hw hend _ ih =>
    cases cs with
    | nil =>
      rw [List.append_nil, words_of_no_blank hne hw, ← ih]
      rfl
    | cons b cs =>
      have hb := hend b rfl
      rw [words_append_blank hb, words_of_no_blank hne hw, ← ih, words_blank hb]
      rfl

/-- A character without blanks begins a word, or becomes a part of the one behind it. -/
theorem Spells.exists_cons {c : Char} {cs : List Char} {ws : List (List Char)}
    (hc : isBlank c = false) (h : Spells cs ws) : ∃ vs, Spells (c :: cs) vs := by
  have hsingle : ∀ d ∈ [c], isBlank d = false := by simpa using hc
  cases h with
  | nothing => exact ⟨_, .word (List.cons_ne_nil c []) hsingle (by simp) .nothing⟩
  | blank hb h =>
    refine ⟨_, .word (List.cons_ne_nil c []) hsingle ?_ (.blank hb h)⟩
    rintro d ⟨⟩
    exact hb
  | @word w cs ws hne hw hend h =>
    have hcw : ∀ d ∈ c :: w, isBlank d = false := List.forall_mem_cons.mpr ⟨hc, hw⟩
    exact ⟨_, .word (List.cons_ne_nil c w) hcw hend h⟩

theorem exists_spells (cs : List Char) : ∃ ws, Spells cs ws := by
  induction cs with
  | nil => exact ⟨[], .nothing⟩
  | cons c cs ih =>
    obtain ⟨ws, h⟩ := ih
    by_cases hc : isBlank c = true
    · exact ⟨ws, .blank hc h⟩
    · exact h.exists_cons (Bool.not_eq_true _ ▸ hc)

theorem spells_words (cs : List Char) : Spells cs (words cs) := by
  obtain ⟨ws, h⟩ := exists_spells cs
  rw [h.words_eq]
  exact h

/-- No word of the one text runs on into the other. -/
def MeetAtBoundary (cs ds : List Char) : Prop :=
  (∀ c, cs.getLast? = some c → isBlank c = true) ∨ ∀ c, ds.head? = some c → isBlank c = true

theorem MeetAtBoundary.words_append {cs ds : List Char} (h : MeetAtBoundary cs ds) :
    words (cs ++ ds) = words cs ++ words ds := by
  rcases h with hlast | hhead
  · induction cs using List.reverseRecOn with
    | nil => rfl
    | append_singleton cs b _ =>
      have hb := hlast b List.getLast?_concat
      rw [List.append_assoc, List.singleton_append, words_append_blank hb, words_append_blank hb]
      simp [words]
  · cases ds with
    | nil => simp [words]
    | cons b ds =>
      have hb := hhead b rfl
      rw [words_append_blank hb, words_blank hb]

/-! ## Small letters -/

theorem isBlank_eq_false_of_letter {c : Char} (hfirst : 'A'.toNat ≤ c.toNat)
    (hlast : c.toNat ≤ 'z'.toNat) : isBlank c = false := by
  have hclears : (⟨'A'.toNat, 'z'.toNat, 1⟩ : Run).clears blankRuns = true := by decide
  exact Run.anyCovers_of_clears hclears (Run.covers_iff.mpr ⟨hfirst, hlast, Nat.mod_one _⟩)

theorem isBlank_toLower (c : Char) : isBlank c.toLower = isBlank c := by
  by_cases hc : c.val ≥ 'A'.val ∧ c.val ≤ 'Z'.val
  · have hfirst : 65 ≤ c.toNat := UInt32.le_iff_toNat_le.mp hc.1
    have hlast : c.toNat ≤ 90 := UInt32.le_iff_toNat_le.mp hc.2
    have hlower : c.toLower.toNat = c.toNat + 32 := by
      have hval : c.toLower.val = c.val + 32 := congrArg Char.val (dif_pos hc)
      show c.toLower.val.toNat = c.val.toNat + 32
      rw [hval]
      have hsmall : c.val.toNat ≤ 90 := hlast
      rw [UInt32.toNat_add]
      exact Nat.mod_eq_of_lt (by simp; omega)
    rw [isBlank_eq_false_of_letter (c := c) (by simpa using hfirst) (by simp; omega),
      isBlank_eq_false_of_letter (c := c.toLower) (by simp; omega) (by simp; omega)]
  · have hself : c.toLower = c := dif_neg hc
    rw [hself]

/-- The texts differ in nothing but the case of the 26 basic letters. -/
def SameLetters (cs ds : List Char) : Prop := cs.map Char.toLower = ds.map Char.toLower

/-- The texts differ in nothing but the blanks around their words. -/
def SameWords (cs ds : List Char) : Prop := ∃ ws, Spells cs ws ∧ Spells ds ws

theorem Spells.map_toLower {cs : List Char} {ws : List (List Char)} (h : Spells cs ws) :
    Spells (cs.map Char.toLower) (ws.map (·.map Char.toLower)) := by
  induction h with
  | nothing => exact .nothing
  | @blank b cs ws hb _ ih =>
    exact .blank ((isBlank_toLower b).trans hb) ih
  | @word w cs ws hne hw hend _ ih =>
    have hw' : ∀ c ∈ w.map Char.toLower, isBlank c = false := by
      intro c hc
      obtain ⟨d, hd, rfl⟩ := List.mem_map.mp hc
      exact (isBlank_toLower d).trans (hw d hd)
    have hend' : ∀ c, (cs.map Char.toLower).head? = some c → isBlank c = true := by
      intro c hc
      rw [List.head?_map, Option.map_eq_some_iff] at hc
      obtain ⟨d, hd, rfl⟩ := hc
      exact (isBlank_toLower d).trans (hend d hd)
    rw [List.map_append, List.map_cons]
    exact .word (mt List.map_eq_nil_iff.mp hne) hw' hend' ih

/-! ## Texts that start alike -/

/-- The words of a text in small letters, which is all that a comparison sees of it. -/
def plainWords (cs : List Char) : List (List Char) := words (cs.map Char.toLower)

theorem plainWords_eq (cs : List Char) : plainWords cs = (words cs).map (·.map Char.toLower) :=
  (spells_words cs).map_toLower.words_eq

theorem SameLetters.plainWords_eq {cs ds : List Char} (h : SameLetters cs ds) :
    plainWords cs = plainWords ds :=
  congrArg words h

theorem SameWords.plainWords_eq {cs ds : List Char} (h : SameWords cs ds) :
    plainWords cs = plainWords ds := by
  obtain ⟨ws, hcs, hds⟩ := h
  rw [Text.plainWords_eq, Text.plainWords_eq, hcs.words_eq, hds.words_eq]

/-- The words of the first text are the first words of the second, whatever the case of their
letters. -/
def Leads (cs ds : List Char) : Prop :=
  ∃ ws vs, Spells cs ws ∧ Spells ds vs ∧ ws.map (·.map Char.toLower) <+: vs.map (·.map Char.toLower)

theorem leads_iff {cs ds : List Char} : Leads cs ds ↔ plainWords cs <+: plainWords ds := by
  rw [plainWords_eq, plainWords_eq]
  constructor
  · rintro ⟨ws, vs, hws, hvs, h⟩
    rwa [hws.words_eq, hvs.words_eq]
  · intro h
    exact ⟨words cs, words ds, spells_words cs, spells_words ds, h⟩

/-- Two lists agree as far as both go just when one of them is the beginning of the other. -/
theorem all_zip_iff_prefix {α β : Type} [BEq β] [LawfulBEq β] (g : α → β) (xs ys : List α) :
    ((xs.zip ys).all fun (x, y) => g x == g y) = true ↔
      xs.map g <+: ys.map g ∨ ys.map g <+: xs.map g := by
  induction xs generalizing ys with
  | nil => simp
  | cons x xs ih =>
    cases ys with
    | nil => simp
    | cons y ys =>
      rw [List.zip_cons_cons, List.all_cons, Bool.and_eq_true, ih, beq_iff_eq, List.map_cons,
        List.map_cons, List.cons_prefix_cons, List.cons_prefix_cons, and_or_left, eq_comm (a := g y)]

/-- What is left of a text when it is respaced, written in other letters, and cut off behind one of its
words, in any order and any number of times. -/
inductive Abridges (text : List Char) : List Char → Prop
  | whole : Abridges text text
  | respaced {cs ds : List Char} (h : Abridges text cs) (hwords : SameWords cs ds) :
      Abridges text ds
  | recased {cs ds : List Char} (h : Abridges text cs) (hletters : SameLetters cs ds) :
      Abridges text ds
  | cutOff {cs ds : List Char} (h : Abridges text (cs ++ ds)) (hcut : MeetAtBoundary cs ds) :
      Abridges text cs

theorem Abridges.leads {text cs : List Char} (h : Abridges text cs) : Leads cs text := by
  induction h with
  | whole => exact leads_iff.mpr (List.prefix_refl _)
  | respaced _ hwords ih => exact leads_iff.mpr (hwords.plainWords_eq ▸ leads_iff.mp ih)
  | recased _ hletters ih => exact leads_iff.mpr (hletters.plainWords_eq ▸ leads_iff.mp ih)
  | @cutOff cs ds _ hcut ih =>
    have hstart : plainWords cs <+: plainWords (cs ++ ds) := by
      rw [plainWords_eq, plainWords_eq, hcut.words_append, List.map_append]
      exact List.prefix_append _ _
    exact leads_iff.mpr (hstart.trans (leads_iff.mp ih))

end Text

/-! ## Comparing with a column -/

namespace Field

open Text

theorem agree_iff {a b : List Char} : agree a b = true ↔ Leads a b ∨ Leads b a := by
  rw [leads_iff, leads_iff, plainWords_eq, plainWords_eq, ← all_zip_iff_prefix]
  rfl

/-- What is asked of a comparison with existing columns.  It is one of words, and so a matter of
neither blanks nor letters. -/
structure ComparesWords (f : Field) (dialect : Dialect) : Prop where
  fits_iff : ∀ existing, f.fitsColumn existing dialect = true ↔
    f.settings.contains "IGNORE_MIGRATE" = true ∨
      Leads (f.columnDefinition dialect).toList existing.toList ∨
      Leads existing.toList (f.columnDefinition dialect).toList
  own : f.fitsColumn (f.columnDefinition dialect) dialect = true
  abridged : ∀ existing, Abridges (f.columnDefinition dialect).toList existing.toList →
    f.fitsColumn existing dialect = true
  respaced : ∀ existing other, SameWords existing.toList other.toList →
    f.fitsColumn existing dialect = f.fitsColumn other dialect
  recased : ∀ existing other, SameLetters existing.toList other.toList →
    f.fitsColumn existing dialect = f.fitsColumn other dialect

theorem fitsColumn_iff {f : Field} {existing : String} {dialect : Dialect} :
    f.fitsColumn existing dialect = true ↔
      f.settings.contains "IGNORE_MIGRATE" = true ∨
        Leads (f.columnDefinition dialect).toList existing.toList ∨
        Leads existing.toList (f.columnDefinition dialect).toList := by
  rw [fitsColumn, Bool.or_eq_true, agree_iff]
  rfl

/-- The answer depends on the words of the existing definition in small letters and on nothing else of
it. -/
theorem fitsColumn_congr {existing other : String}
    (h : plainWords existing.toList = plainWords other.toList) (f : Field) (dialect : Dialect) :
    f.fitsColumn existing dialect = f.fitsColumn other dialect := by
  rw [Bool.eq_iff_iff, fitsColumn_iff, fitsColumn_iff]
  simp only [leads_iff, h]

theorem comparesWords (f : Field) (dialect : Dialect) : f.ComparesWords dialect where
  fits_iff _ := fitsColumn_iff
  own := fitsColumn_iff.mpr (.inr (.inl Abridges.whole.leads))
  abridged _ h := fitsColumn_iff.mpr (.inr (.inr h.leads))
  respaced _ _ h := fitsColumn_congr h.plainWords_eq f dialect
  recased _ _ h := fitsColumn_congr h.plainWords_eq f dialect

/-- A part of the definition in other letters and with other blanks will do, and another size will
not. -/
example :
    let code := Field.ofDeclaration
      { name := "Code", type := .scalar "String", annotation := { sql := "type:varchar(8) ;unique" } }
    let dialect := Dialect.plain fun _ => ""
    code.columnDefinition dialect = "varchar(8)  UNIQUE" ∧
      code.fitsColumn "\tVarChar(8)" dialect = true ∧
      code.fitsColumn "varchar(8) Unique DEFAULT ''" dialect = true ∧
      code.fitsColumn "varchar(9) UNIQUE" dialect = false := by
  decide +kernel

end Field
end RecordMapping
