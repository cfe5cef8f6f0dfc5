import Mathlib.Data.List.Infix
import RecordMapping.Naming

/-!
Plurals of names.

A rule is tried at one place of the name after the other, and applies at the first one from which its
pattern describes all that follows.  The rules overlap: a name that ends in `ss` ends in an `s`, one that
ends in `day` ends in a `y`, and the last rule describes nearly every ending.  Which of them comes to be
applied, and where, depends on the ending alone.  Of two endings of one name the shorter one ends the
longer one, so that endings of which this is not true exclude each other.
-/

namespace RecordMapping
namespace Naming

/-! ## Patterns -/

/-- The pattern describes the whole text, one place after the other. -/
inductive Matches : List Place → List Char → Prop
  | nothing : Matches [] []
  | exactly {c : Char} {places : List Place} {cs : List Char} (h : Matches places cs) :
      Matches (.exactly c :: places) (c :: cs)
  | otherThan {c d : Char} {places : List Place} {cs : List Char} (hd : d ≠ c)
      (h : Matches places cs) : Matches (.otherThan c :: places) (d :: cs)
  | present {c : Char} {places : List Place} {cs : List Char} (h : Matches places cs) :
      Matches (.maybe c :: places) (c :: cs)
  | missing {c : Char} {places : List Place} {cs : List Char} (h : Matches places cs) :
      Matches (.maybe c :: places) cs

theorem matches_of_describes {places : List Place} {cs : List Char}
    (h : describes places cs = true) : Matches places cs := by
  induction places generalizing cs with
  | nil =>
    rw [describes, List.isEmpty_iff] at h
    rw [h]
    exact .nothing
  | cons place places ih =>
    cases place with
    | exactly c =>
      cases cs with
      | nil => simp [describes] at h
      | cons d rest =>
        obtain ⟨hd, hrest⟩ := Bool.and_eq_true_iff.mp h
        rw [beq_iff_eq.mp hd]
        exact .exactly (ih hrest)
    | otherThan c =>
      cases cs with
      | nil => simp [describes] at h
      | cons d rest =>
        obtain ⟨hd, hrest⟩ := Bool.and_eq_true_iff.mp h
        exact .otherThan (bne_iff_ne.mp hd) (ih hrest)
    | maybe c =>
      cases cs with
      | nil => exact .missing (ih h)
      | cons d rest =>
        rcases Bool.or_eq_true_iff.mp h with hpresent | hmissing
        · obtain ⟨hd, hrest⟩ := Bool.and_eq_true_iff.mp hpresent
          rw [beq_iff_eq.mp hd]
          exact .present (ih hrest)
        · exact .missing (ih hmissing)

theorem describes_iff {places : List Place} {cs : List Char} :
    describes places cs = true ↔ Matches places cs := by
  refine ⟨matches_of_describes, fun h => ?_⟩
  induction h with
  | nothing => rfl
  | exactly _ ih => simp [describes, ih]
  | otherThan hd _ ih => simp [describes, ih, hd]
  | present _ ih => simp [describes, ih]
  | @missing c places cs _ ih => cases cs <;> simp [describes, ih]

theorem matches_letters_iff {s : String} {cs : List Char} :
    Matches (PluralRule.letters s) cs ↔ cs = s.toList := by
  rw [PluralRule.letters]
  generalize s.toList = letters
  constructor
  · intro h
    induction letters generalizing cs with
    | nil =>
      cases h
      rfl
    | cons c rest ih =>
      cases h with
      | exactly h => rw [ih h]
  · rintro rfl
    induction cs with
    | nil => exact .nothing
    | cons c rest ih => exact .exactly ih

/-! ## Rules -/

namespace PluralRule

/-- The rule is applied to the longest ending that its pattern describes, which is the first match from
the left. -/
inductive Rewrites (rule : PluralRule) : List Char → List Char → Prop
  | intro (front : List Char) {ending : List Char} (h : Matches rule.pattern ending)
      (hfirst : ∀ longer, longer <:+ front ++ ending → Matches rule.pattern longer →
        longer <:+ ending) :
      Rewrites rule (front ++ ending) (front ++ (ending.take rule.kept ++ rule.plural.toList))

/-- The pattern describes no ending of the name. -/
def Misses (rule : PluralRule) (name : List Char) : Prop :=
  ∀ ending, ending <:+ name → ¬ Matches rule.pattern ending

variable {rule : PluralRule} {name out : List Char}

theorem Rewrites.not_misses (h : rule.Rewrites name out) : ¬ rule.Misses name := by
  cases h with
  | @intro front ending h _ => exact fun hno => hno ending (List.suffix_append front ending) h

theorem rewritten?_eq_none_iff : rule.rewritten? name = none ↔ rule.Misses name := by
  induction name with
  | nil => simp [rewritten?, Misses, ← describes_iff]
  | cons c rest ih =>
    have hmisses : rule.Misses (c :: rest) ↔
        describes rule.pattern (c :: rest) = false ∧ rule.Misses rest := by
      rw [← Bool.not_eq_true, describes_iff]
      constructor
      · intro h
        exact ⟨h _ List.suffix_rfl, fun e he => h e (he.trans (List.suffix_cons c rest))⟩
      · rintro ⟨hwhole, hrest⟩ e he
        rcases List.suffix_cons_iff.mp he with rfl | he
        · exact hwhole
        · exact hrest e he
    rw [hmisses, rewritten?]
    split
    · next hdescribes => simp [hdescribes]
    · next hdescribes => simp [hdescribes, ih]

theorem rewrites_of_rewritten? (h : rule.rewritten? name = some out) : rule.Rewrites name out := by
  induction name generalizing out with
  | nil =>
    rw [rewritten?] at h
    split at h
    · next hdescribes =>
      have hrewrites : rule.Rewrites [] ([] ++ ([].take rule.kept ++ rule.plural.toList)) :=
        .intro [] (describes_iff.mp hdescribes) fun longer hlonger _ => hlonger
      rw [← Option.some.inj h]
      rwa [List.take_nil] at hrewrites
    · contradiction
  | cons c rest ih =>
    rw [rewritten?] at h
    split at h
    · next hdescribes =>
      rw [← Option.some.inj h]
      exact .intro [] (describes_iff.mp hdescribes) fun longer hlonger _ => hlonger
    · next hdescribes =>
      obtain ⟨out', hrest, rfl⟩ := Option.map_eq_some_iff.mp h
      cases ih hrest with
      | @intro front ending hmatches hfirst =>
        refine .intro (c :: front) hmatches ?_
        intro longer hlonger hlong
        rcases List.suffix_cons_iff.mp hlonger with rfl | hlonger
        · exact absurd (describes_iff.mpr hlong) hdescribes
        · exact hfirst longer hlonger hlong

/-- There is one longest ending. -/
theorem Rewrites.unique {out' : List Char} (h : rule.Rewrites name out)
    (h' : rule.Rewrites name out') : out' = out := by
  generalize hname : name = name' at h'
  cases h with
  | @intro front ending hmatches hfirst =>
    cases h' with
    | @intro front' ending' hmatches' hfirst' =>
      have hle := hfirst ending' (hname ▸ List.suffix_append front' ending') hmatches'
      have hge := hfirst' ending (hname ▸ List.suffix_append front ending) hmatches
      obtain rfl : ending' = ending := hle.eq_of_length (Nat.le_antisymm hle.length_le hge.length_le)
      rw [List.append_cancel_right hname]

theorem rewritten?_eq_some_iff : rule.rewritten? name = some out ↔ rule.Rewrites name out := by
  refine ⟨rewrites_of_rewritten?, fun h => ?_⟩
  cases hout : rule.rewritten? name with
  | none => exact absurd (rewritten?_eq_none_iff.mp hout) h.not_misses
  | some out' => rw [h.unique (rewrites_of_rewritten? hout)]

end PluralRule

/-- The first rule with a match is applied to it, and no other rule.  Without one the name stays as it
is. -/
inductive RewritesFirst : List PluralRule → List Char → List Char → Prop
  | none {name : List Char} : RewritesFirst [] name name
  | applied {rule : PluralRule} {rules : List PluralRule} {name out : List Char}
      (h : rule.Rewrites name out) : RewritesFirst (rule :: rules) name out
  | skipped {rule : PluralRule} {rules : List PluralRule} {name out : List Char}
      (hmisses : rule.Misses name) (h : RewritesFirst rules name out) :
      RewritesFirst (rule :: rules) name out

theorem rewritesFirst_iff {rules : List PluralRule} {name out : List Char} :
    RewritesFirst rules name out ↔ out = (rules.findSome? (·.rewritten? name)).getD name := by
  induction rules with
  | nil =>
    constructor
    · rintro ⟨⟩
      rfl
    · rintro rfl
      exact .none
  | cons rule rules ih =>
    rw [List.findSome?_cons]
    cases hrule : rule.rewritten? name with
    | none =>
      have hmisses := PluralRule.rewritten?_eq_none_iff.mp hrule
      rw [← ih]
      constructor
      · intro h
        cases h with
        | applied h => exact absurd hmisses h.not_misses
        | skipped _ h => exact h
      · exact .skipped hmisses
    | some out' =>
      have hrewrites := PluralRule.rewritten?_eq_some_iff.mp hrule
      constructor
      · intro h
        cases h with
        | applied h => exact hrewrites.unique h
        | skipped hmisses _ => exact absurd hmisses hrewrites.not_misses
      · rintro rfl
        exact .applied hrewrites

/-! ## The eight rules -/

/-- The name has this ending. -/
def EndsIn (name ending : String) : Prop := ∃ stem, name = stem ++ ending

theorem endsIn_iff {name ending : String} : EndsIn name ending ↔ ending.toList <:+ name.toList := by
  constructor
  · rintro ⟨stem, rfl⟩
    rw [String.toList_append]
    exact List.suffix_append _ _
  · rintro ⟨stem, hstem⟩
    refine ⟨String.ofList stem, String.toList_inj.mp ?_⟩
    rw [String.toList_append, String.toList_ofList, hstem]

theorem exists_toList_eq_concat {name : String} (h : name ≠ "") :
    ∃ stem c, name.toList = stem ++ [c] :=
  ⟨_, _, (List.dropLast_append_getLast (mt String.toList_eq_nil_iff.mp h)).symm⟩

instance (name ending : String) : Decidable (EndsIn name ending) := decidable_of_iff' _ endsIn_iff

theorem EndsIn.trans {name ending other : String} (h : EndsIn name ending)
    (h' : EndsIn ending other) : EndsIn name other := by
  rw [endsIn_iff] at h h' ⊢
  exact h'.trans h

/-- Endings that are none of each other exclude each other. -/
theorem EndsIn.excludes {name ending other : String} (h : EndsIn name ending)
    (hapart : ¬ EndsIn ending other ∧ ¬ EndsIn other ending) : ¬ EndsIn name other := by
  rw [endsIn_iff, endsIn_iff] at hapart
  rw [endsIn_iff] at h ⊢
  intro hother
  rcases List.suffix_or_suffix_of_suffix hother h with hshort | hlong
  · exact hapart.1 hshort
  · exact hapart.2 hlong

namespace PluralRule

/-- The rule for an ending that is given by its letters. -/
def literal (ending plural : String) : PluralRule := { pattern := letters ending, plural }

/-- The rule for a name that ends in a single `s`. -/
def single : PluralRule := { pattern := [.otherThan 's', .exactly 's'], kept := 1, plural := "sses" }

/-- The rule for any other name. -/
def general : PluralRule := { pattern := [.otherThan 's', .maybe 's'], kept := 1, plural := "s" }

theorem rewrites_literal (stem ending plural : String) :
    (literal ending plural).Rewrites (stem ++ ending).toList (stem ++ plural).toList := by
  rw [String.toList_append, String.toList_append]
  refine .intro stem.toList (matches_letters_iff.mpr rfl) ?_
  intro longer _ hlonger
  rw [matches_letters_iff.mp hlonger]

theorem misses_literal {name ending : String} (h : ¬ EndsIn name ending) (plural : String) :
    (literal ending plural).Misses name.toList := by
  intro cs hcs hmatches
  rw [matches_letters_iff.mp hmatches] at hcs
  exact h (endsIn_iff.mpr hcs)

theorem matches_single_iff {cs : List Char} :
    Matches single.pattern cs ↔ ∃ c, c ≠ 's' ∧ cs = [c, 's'] := by
  constructor
  · rintro (_ | _ | ⟨hd, _ | ⟨h⟩⟩)
    cases h
    exact ⟨_, hd, rfl⟩
  · rintro ⟨c, hc, rfl⟩
    exact .otherThan hc (.exactly .nothing)

theorem matches_general_iff {cs : List Char} :
    Matches general.pattern cs ↔ ∃ c, c ≠ 's' ∧ (cs = [c] ∨ cs = [c, 's']) := by
  constructor
  · rintro (_ | _ | ⟨hd, _ | _ | _ | ⟨h⟩ | ⟨h⟩⟩)
    · cases h
      exact ⟨_, hd, Or.inr rfl⟩
    · cases h
      exact ⟨_, hd, Or.inl rfl⟩
  · rintro ⟨c, hc, rfl | rfl⟩
    · exact .otherThan hc (.missing .nothing)
    · exact .otherThan hc (.present .nothing)

theorem rewrites_single (stem : List Char) {c : Char} (hc : c ≠ 's') :
    single.Rewrites (stem ++ [c, 's']) (stem ++ ([c] ++ single.plural.toList)) := by
  refine .intro stem (matches_single_iff.mpr ⟨c, hc, rfl⟩) ?_
  intro longer hlonger hmatches
  obtain ⟨d, -, rfl⟩ := matches_single_iff.mp hmatches
  exact List.suffix_of_suffix_length_le hlonger (List.suffix_append _ _) (Nat.le_refl 2)

theorem misses_single {name : List Char} (h : ¬ ['s'] <:+ name) : single.Misses name := by
  intro cs hcs hmatches
  obtain ⟨d, -, rfl⟩ := matches_single_iff.mp hmatches
  exact h ((List.suffix_cons d ['s']).trans hcs)

/-- Where no `s` ends the name, the pattern describes its last character alone. -/
theorem rewrites_general {stem : List Char} {c : Char} (h : ¬ ['s'] <:+ stem ++ [c]) :
    general.Rewrites (stem ++ [c]) (stem ++ ([c] ++ general.plural.toList)) := by
  have hc : c ≠ 's' := by
    rintro rfl
    exact h (List.suffix_append _ _)
  refine .intro stem (matches_general_iff.mpr ⟨c, hc, Or.inl rfl⟩) ?_
  intro longer hlonger hmatches
  obtain ⟨d, -, rfl | rfl⟩ := matches_general_iff.mp hmatches
  · exact List.suffix_of_suffix_length_le hlonger (List.suffix_append _ _) (Nat.le_refl 1)
  · exact absurd ((List.suffix_cons d ['s']).trans hlonger) h

/-- The rules for given letters, in their order. -/
def literals : List (String × String) :=
  [("ch", "ches"), ("ss", "sses"), ("sh", "shes"), ("day", "days"), ("y", "ies"), ("x", "xes")]

theorem all_eq : all = literals.map (fun e => literal e.1 e.2) ++ [single, general] := rfl

end PluralRule

open PluralRule

theorem RewritesFirst.literals {name : String} {out : List Char} {es : List (String × String)}
    {rules : List PluralRule} (hes : ∀ e ∈ es, ¬ EndsIn name e.1)
    (h : RewritesFirst rules name.toList out) :
    RewritesFirst (es.map (fun e => literal e.1 e.2) ++ rules) name.toList out := by
  induction es with
  | nil => exact h
  | cons e es ih =>
    obtain ⟨he, hes⟩ := List.forall_mem_cons.mp hes
    exact .skipped (misses_literal he e.2) (ih hes)

theorem plural_eq_of_rewritesFirst {name out : String}
    (h : RewritesFirst PluralRule.all name.toList out.toList) : plural name = out := by
  have hout : out.toList = pluralized name.toList := rewritesFirst_iff.mp h
  rw [plural, ← hout, String.ofList_toList]

/-! ## The table -/

/-- The plural of a name by its ending. -/
structure SuffixTable (name plural : String) : Prop where
  hissing : ∀ ending ∈ ["ch", "ss", "sh", "x"], EndsIn name ending → plural = name ++ "es"
  day : EndsIn name "day" → plural = name ++ "s"
  y : ∀ stem, name = stem ++ "y" → ¬ EndsIn name "day" → plural = stem ++ "ies"
  single : ∀ stem c, name = stem ++ String.singleton c ++ "s" → c ≠ 's' → plural = name ++ "ses"
  other : name ≠ "" → (∀ ending ∈ ["s", "ch", "sh", "x", "y"], ¬ EndsIn name ending) →
    plural = name ++ "s"
  unchanged : plural = name ↔ name = "" ∨ name = "s"

theorem plural_of_literal (before : List (String × String)) {after : List (String × String)}
    {ending plural : String}
    (h : literals = before ++ (ending, plural) :: after) {stem : String}
    (hbefore : ∀ e ∈ before, ¬ EndsIn (stem ++ ending) e.1) :
    Naming.plural (stem ++ ending) = stem ++ plural := by
  apply plural_eq_of_rewritesFirst
  rw [all_eq, h, List.map_append, List.append_assoc]
  exact .literals hbefore (.applied (rewrites_literal stem ending plural))

theorem plural_of_hissing {ending : String} (h : ending ∈ ["ch", "ss", "sh", "x"]) (stem : String) :
    plural (stem ++ ending) = stem ++ ending ++ "es" := by
  have hname : EndsIn (stem ++ ending) ending := ⟨stem, rfl⟩
  have hbefore : ∀ before : List (String × String),
      (∀ e ∈ before, ¬ EndsIn ending e.1 ∧ ¬ EndsIn e.1 ending) →
        ∀ e ∈ before, ¬ EndsIn (stem ++ ending) e.1 :=
    fun before happart e he => hname.excludes (happart e he)
  rw [String.append_assoc]
  simp only [List.mem_cons, List.not_mem_nil, or_false] at h
  rcases h with rfl | rfl | rfl | rfl
  · exact plural_of_literal [] rfl (hbefore _ (by decide))
  · exact plural_of_literal (literals.take 1) rfl (hbefore _ (by decide))
  · exact plural_of_literal (literals.take 2) rfl (hbefore _ (by decide))
  · exact plural_of_literal (literals.take 5) rfl (hbefore _ (by decide))

theorem plural_of_day (stem : String) : plural (stem ++ "day") = stem ++ "day" ++ "s" := by
  have hname : EndsIn (stem ++ "day") "day" := ⟨stem, rfl⟩
  have happart : ∀ e ∈ literals.take 3, ¬ EndsIn "day" e.1 ∧ ¬ EndsIn e.1 "day" := by decide
  rw [String.append_assoc]
  exact plural_of_literal (literals.take 3) rfl fun e he => hname.excludes (happart e he)

theorem plural_of_y {stem : String} (h : ¬ EndsIn (stem ++ "y") "day") :
    plural (stem ++ "y") = stem ++ "ies" := by
  have hname : EndsIn (stem ++ "y") "y" := ⟨stem, rfl⟩
  have happart : ∀ e ∈ literals.take 3, ¬ EndsIn "y" e.1 ∧ ¬ EndsIn e.1 "y" := by decide
  refine plural_of_literal (literals.take 3 ++ [("day", "days")]) rfl ?_
  intro e he
  rcases List.mem_append.mp he with he | he
  · exact hname.excludes (happart e he)
  · rw [List.mem_singleton.mp he]
    exact h

/-- None of the rules for given letters fits a name that ends in a single `s`. -/
theorem plural_of_single (stem : String) {c : Char} (hc : c ≠ 's') :
    plural (stem ++ String.singleton c ++ "s") = stem ++ String.singleton c ++ "s" ++ "ses" := by
  have hletters : (stem ++ String.singleton c ++ "s").toList = stem.toList ++ [c, 's'] := by simp
  have hname : EndsIn (stem ++ String.singleton c ++ "s") "s" := ⟨_, rfl⟩
  have hdouble : ¬ EndsIn (stem ++ String.singleton c ++ "s") "ss" := by
    rw [endsIn_iff, hletters]
    intro h
    have hsuffix : ['s', 's'] <:+ [c, 's'] :=
      List.suffix_of_suffix_length_le h (List.suffix_append _ _) (Nat.le_refl 2)
    exact hc (List.cons.inj (hsuffix.eq_of_length rfl)).1.symm
  have happart : ∀ e ∈ literals, e.1 ≠ "ss" → ¬ EndsIn "s" e.1 ∧ ¬ EndsIn e.1 "s" := by decide
  apply plural_eq_of_rewritesFirst
  rw [all_eq]
  apply RewritesFirst.literals
  · intro e he
    by_cases hss : e.1 = "ss"
    · rw [hss]
      exact hdouble
    · exact hname.excludes (happart e he hss)
  · have hrewrites := rewrites_single stem.toList hc
    rw [← hletters] at hrewrites
    have hplural : (stem ++ String.singleton c ++ "s" ++ "ses").toList =
        stem.toList ++ ([c] ++ PluralRule.single.plural.toList) := by
      simp [PluralRule.single]
    rw [hplural]
    exact .applied hrewrites

/-- The general rule comes to be applied where none of the others fits. -/
theorem plural_of_other {name : String} (hne : name ≠ "")
    (h : ∀ ending ∈ ["s", "ch", "sh", "x", "y"], ¬ EndsIn name ending) :
    plural name = name ++ "s" := by
  obtain ⟨stem, c, hletters⟩ := exists_toList_eq_concat hne
  have hs : ¬ ['s'] <:+ stem ++ [c] := by
    rw [← hletters]
    exact fun hname => h "s" (by decide) (endsIn_iff.mpr hname)
  have hends : ∀ e ∈ literals, ∃ ending ∈ ["s", "ch", "sh", "x", "y"], EndsIn e.1 ending := by decide
  apply plural_eq_of_rewritesFirst
  rw [all_eq]
  apply RewritesFirst.literals
  · intro e he hname
    obtain ⟨ending, hmem, hending⟩ := hends e he
    exact h ending hmem (hname.trans hending)
  · rw [String.toList_append, hletters, List.append_assoc]
    exact .skipped (misses_single hs) (.applied (rewrites_general hs))

/-- A name that ends in an `s` ends in two of them, or in a single one, or is nothing else. -/
theorem exists_of_endsIn_s {name : String} (h : EndsIn name "s") :
    name = "s" ∨ EndsIn name "ss" ∨
      ∃ stem c, c ≠ 's' ∧ name = stem ++ String.singleton c ++ "s" := by
  obtain ⟨front, rfl⟩ := h
  by_cases hfront : front = ""
  · rw [hfront]
    exact Or.inl rfl
  · obtain ⟨stem, c, hletters⟩ := exists_toList_eq_concat hfront
    obtain rfl : front = String.ofList stem ++ String.singleton c := by
      apply String.toList_inj.mp
      simp [hletters]
    by_cases hc : c = 's'
    · subst hc
      exact Or.inr (Or.inl ⟨String.ofList stem, by rw [String.append_assoc]; rfl⟩)
    · exact Or.inr (Or.inr ⟨_, c, hc, rfl⟩)

/-- Every name but the empty one and `s` becomes longer, or ends differently. -/
theorem plural_ne {name : String} (hne : name ≠ "") (hs : name ≠ "s") : plural name ≠ name := by
  by_cases hhissing : ∃ ending ∈ ["ch", "ss", "sh", "x"], EndsIn name ending
  · obtain ⟨ending, hending, stem, rfl⟩ := hhissing
    rw [plural_of_hissing hending]
    simp
  by_cases hy : EndsIn name "y"
  · by_cases hday : EndsIn name "day"
    · obtain ⟨stem, rfl⟩ := hday
      rw [plural_of_day]
      simp
    · obtain ⟨stem, rfl⟩ := hy
      rw [plural_of_y hday]
      simp
  by_cases hends : EndsIn name "s"
  · rcases exists_of_endsIn_s hends with hname | hss | ⟨stem, c, hc, rfl⟩
    · exact absurd hname hs
    · exact absurd ⟨"ss", by decide, hss⟩ hhissing
    · rw [plural_of_single stem hc]
      simp
  · rw [plural_of_other hne]
    · simp
    · intro ending hmem hname
      simp only [List.mem_cons, List.not_mem_nil, or_false] at hmem
      rcases hmem with rfl | rfl | rfl | rfl | rfl
      · exact hends hname
      · exact hhissing ⟨"ch", by decide, hname⟩
      · exact hhissing ⟨"sh", by decide, hname⟩
      · exact hhissing ⟨"x", by decide, hname⟩
      · exact hy hname

/-- The first of the eight rules that has a match is applied to its first match, and what this gives can
be read off the ending of the name. -/
theorem plural_suffixTable (name : String) :
    (∀ out, RewritesFirst PluralRule.all name.toList out ↔ out = (plural name).toList) ∧
      SuffixTable name (plural name) := by
  refine ⟨?_, ?_, ?_, ?_, ?_, plural_of_other, ?_⟩
  · intro out
    rw [plural, String.toList_ofList]
    exact rewritesFirst_iff
  · rintro ending hending ⟨stem, rfl⟩
    exact plural_of_hissing hending stem
  · rintro ⟨stem, rfl⟩
    exact plural_of_day stem
  · rintro stem rfl hday
    exact plural_of_y hday
  · rintro stem c rfl hc
    exact plural_of_single stem hc
  · constructor
    · contrapose!
      rintro ⟨hne, hs⟩
      exact plural_ne hne hs
    · rintro (rfl | rfl)
      · decide
      · decide

example : ["category", "day", "box", "glass", "bus", "user", "s"].map plural =
    ["categories", "days", "boxes", "glasses", "busses", "users", "s"] := by decide

end Naming
end RecordMapping
