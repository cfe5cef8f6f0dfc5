import RecordMapping.Naming
import RecordMapping.Proofs.Casing

/-!
Names of columns.

A name is converted character by character.  What a character becomes is its small letters, with an
underscore in front of them if the character starts a word, and what the characters become is put
together in their order.  No character becomes an underscore but an underscore itself, so that each
underscore of a column can be traced back to its name.

A second conversion changes only what the first one has left capitals in, and such capitals have no small
letters.  It may find that one of them starts a word, as the letter in front of it has become small, but
after that there is always an underscore in front of it.
-/

namespace RecordMapping
namespace Naming

open Text

/-! ## Words -/

/-- The capital at this place starts a word: the character before it is a small letter or a digit, or it
is a capital and a small letter follows. -/
inductive StartsWord (cs : List Char) : Nat → Prop
  | afterSmall {i : Nat} {b c : Char} (hb : cs[i]? = some b) (hc : cs[i + 1]? = some c)
      (hcapital : isUppercase c = true) (hsmall : isLowercase b = true ∨ b.isDigit = true) :
      StartsWord cs (i + 1)
  | endsAcronym {i : Nat} {b c d : Char} (hb : cs[i]? = some b) (hc : cs[i + 1]? = some c)
      (hd : cs[i + 2]? = some d) (hcapital : isUppercase c = true) (hacronym : isUppercase b = true)
      (hsmall : isLowercase d = true) : StartsWord cs (i + 1)

/-- The character before a place, `before` being the one in front of the text. -/
def preceding (before : Option Char) (cs : List Char) : Nat → Option Char
  | 0 => before
  | i + 1 => cs[i]?

theorem startsWord_some_iff {b c : Char} {after : Option Char} :
    startsWord (some b) c after = true ↔ isUppercase c = true ∧
      ((isLowercase b = true ∨ b.isDigit = true) ∨
        isUppercase b = true ∧ ∃ d, after = some d ∧ isLowercase d = true) := by
  cases after with
  | none => simp [startsWord]
  | some d => simp [startsWord]

theorem startsWord_none (c : Char) (after : Option Char) : startsWord none c after = false := by
  simp [startsWord]

theorem startsWord_preceding_iff {cs : List Char} {i : Nat} {c : Char} (hc : cs[i]? = some c) :
    startsWord (preceding none cs i) c cs[i + 1]? = true ↔ StartsWord cs i := by
  cases i with
  | zero =>
    rw [preceding, startsWord_none]
    exact ⟨fun h => absurd h Bool.false_ne_true, nofun⟩
  | succ i =>
    have hlt := (List.getElem?_eq_some_iff.mp hc).1
    have hb : cs[i]? = some cs[i] := List.getElem?_eq_getElem (by omega)
    rw [preceding, hb, startsWord_some_iff]
    constructor
    · rintro ⟨hcapital, hsmall | ⟨hacronym, d, hd, hsmall⟩⟩
      · exact .afterSmall hb hc hcapital hsmall
      · exact .endsAcronym hb hc hd hcapital hacronym hsmall
    · intro h
      cases h with
      | afterSmall hb' hc' hcapital hsmall =>
        obtain rfl := Option.some.inj (hb.symm.trans hb')
        obtain rfl := Option.some.inj (hc.symm.trans hc')
        exact ⟨hcapital, Or.inl hsmall⟩
      | endsAcronym hb' hc' hd hcapital hacronym hsmall =>
        obtain rfl := Option.some.inj (hb.symm.trans hb')
        obtain rfl := Option.some.inj (hc.symm.trans hc')
        exact ⟨hcapital, Or.inr ⟨hacronym, _, hd, hsmall⟩⟩

theorem underscore_isNoLetter :
    isUppercase '_' = false ∧ isLowercase '_' = false ∧ '_'.isDigit = false := by decide +kernel

theorem lowered_underscore : lowered '_' = ['_'] := by decide +kernel

theorem isUppercase_of_startsWord {before : Option Char} {c : Char} {after : Option Char}
    (h : startsWord before c after = true) : isUppercase c = true := (Bool.and_eq_true_iff.mp h).1

theorem startsWord_of_not_isUppercase {before : Option Char} {c : Char} {after : Option Char}
    (h : isUppercase c = false) : startsWord before c after = false := by
  rw [← Bool.not_eq_true]
  intro hstarts
  rw [isUppercase_of_startsWord hstarts] at h
  contradiction

theorem startsWord_underscore (c : Char) (after : Option Char) :
    startsWord (some '_') c after = false := by
  obtain ⟨hcapital, hsmall, hdigit⟩ := underscore_isNoLetter
  simp [startsWord, hcapital, hsmall, hdigit]

theorem StartsWord.isUppercase {cs : List Char} {i : Nat} {c : Char} (h : StartsWord cs i)
    (hc : cs[i]? = some c) : isUppercase c = true :=
  isUppercase_of_startsWord ((startsWord_preceding_iff hc).mpr h)

theorem StartsWord.ne_underscore {cs : List Char} {i : Nat} (h : StartsWord cs i) :
    cs[i]? ≠ some '_' := by
  intro hc
  have hcapital := h.isUppercase hc
  rw [underscore_isNoLetter.1] at hcapital
  contradiction

theorem StartsWord.exists_char {cs : List Char} {i : Nat} (h : StartsWord cs i) :
    ∃ c, cs[i]? = some c := by
  cases h with
  | afterSmall _ hc => exact ⟨_, hc⟩
  | endsAcronym _ hc => exact ⟨_, hc⟩

theorem lt_length_of_underscore {cs : List Char} {i : Nat}
    (h : cs[i]? = some '_' ∨ StartsWord cs i) : i < cs.length := by
  rcases h with hi | hstarts
  · exact (List.getElem?_eq_some_iff.mp hi).1
  · obtain ⟨c, hc⟩ := hstarts.exists_char
    exact (List.getElem?_eq_some_iff.mp hc).1

theorem StartsWord.not_after_underscore {cs : List Char} {i : Nat} (h : StartsWord cs (i + 1)) :
    cs[i]? ≠ some '_' := by
  intro hb
  obtain ⟨c, hc⟩ := h.exists_char
  have hstarts := (startsWord_preceding_iff hc).mpr h
  rw [preceding, hb, startsWord_underscore] at hstarts
  contradiction

/-! ## Pieces -/

/-- Each character becomes one piece, its small letters behind an underscore if it starts a word. -/
structure Converts (cs : List Char) (pieces : List (List Char)) : Prop where
  length : pieces.length = cs.length
  word : ∀ i c, cs[i]? = some c → StartsWord cs i → pieces[i]? = some ('_' :: lowered c)
  inner : ∀ i c, cs[i]? = some c → ¬ StartsWord cs i → pieces[i]? = some (lowered c)

/-- The place where the piece of a character begins. -/
def offset (pieces : List (List Char)) (i : Nat) : Nat := (pieces.take i).flatten.length

def pieces (before : Option Char) : List Char → List (List Char)
  | [] => []
  | c :: rest =>
    ((if startsWord before c rest.head? then ['_'] else []) ++ lowered c) :: pieces (some c) rest

theorem flatten_pieces (before : Option Char) (cs : List Char) :
    (pieces before cs).flatten = separated before cs := by
  induction cs generalizing before with
  | nil => rfl
  | cons c rest ih => rw [pieces, separated, List.flatten_cons, ih]

theorem getElem?_pieces (before : Option Char) (cs : List Char) (i : Nat) :
    (pieces before cs)[i]? = cs[i]?.map fun c =>
      (if startsWord (preceding before cs i) c cs[i + 1]? then ['_'] else []) ++ lowered c := by
  induction cs generalizing before i with
  | nil => rfl
  | cons c rest ih =>
    cases i with
    | zero => rw [pieces, List.head?_eq_getElem?]; rfl
    | succ i =>
      have hpreceding : preceding (some c) rest i = preceding before (c :: rest) (i + 1) := by
        cases i <;> rfl
      rw [pieces, List.getElem?_cons_succ, ih, hpreceding]
      rfl

theorem converts_pieces (cs : List Char) : Converts cs (pieces none cs) := by
  refine ⟨?_, ?_, ?_⟩
  · have hlength : ∀ before, (pieces before cs).length = cs.length := by
      induction cs with
      | nil => exact fun _ => rfl
      | cons c rest ih => exact fun _ => congrArg (· + 1) (ih (some c))
    exact hlength none
  · intro i c hc hstarts
    rw [getElem?_pieces, hc, Option.map_some,
      if_pos ((startsWord_preceding_iff hc).mpr hstarts)]
    rfl
  · intro i c hc hinner
    rw [getElem?_pieces, hc, Option.map_some,
      if_neg (mt (startsWord_preceding_iff hc).mp hinner)]
    rfl

/-! ## Offsets -/

theorem offset_succ {ps : List (List Char)} {i : Nat} {p : List Char} (h : ps[i]? = some p) :
    offset ps (i + 1) = offset ps i + p.length := by
  rw [offset, List.take_add_one, h, Option.toList_some, List.flatten_append, List.length_append,
    offset, List.flatten_singleton]

theorem getElem?_flatten_iff {ps : List (List Char)} {j : Nat} {x : Char} :
    ps.flatten[j]? = some x ↔
      ∃ i p k, ps[i]? = some p ∧ p[k]? = some x ∧ j = offset ps i + k := by
  induction ps generalizing j with
  | nil => simp
  | cons q ps ih =>
    have hoffset : ∀ i, offset (q :: ps) (i + 1) = q.length + offset ps i := by
      intro i
      rw [offset, List.take_succ_cons, List.flatten_cons, List.length_append, offset]
    rw [List.flatten_cons]
    constructor
    · intro h
      rcases Nat.lt_or_ge j q.length with hlt | hge
      · rw [List.getElem?_append_left hlt] at h
        exact ⟨0, q, j, rfl, h, (Nat.zero_add j).symm⟩
      · rw [List.getElem?_append_right hge] at h
        obtain ⟨i, p, k, hp, hx, hj⟩ := ih.mp h
        refine ⟨i + 1, p, k, hp, hx, ?_⟩
        rw [hoffset]
        omega
    · rintro ⟨i, p, k, hp, hx, rfl⟩
      cases i with
      | zero =>
        obtain rfl := Option.some.inj hp
        have hk := (List.getElem?_eq_some_iff.mp hx).1
        rw [show offset (q :: ps) 0 = 0 from rfl, Nat.zero_add, List.getElem?_append_left hk]
        exact hx
      | succ i =>
        rw [hoffset, List.getElem?_append_right (by omega)]
        refine ih.mpr ⟨i, p, k, hp, hx, ?_⟩
        omega

/-- If no piece is empty, each begins behind those before it. -/
theorem offset_lt_offset {ps : List (List Char)} (hne : ∀ p ∈ ps, p ≠ []) {i j : Nat} (hij : i < j)
    (hj : j ≤ ps.length) : offset ps i < offset ps j := by
  induction j with
  | zero => exact absurd hij (Nat.not_lt_zero i)
  | succ j ih =>
    have hjp : ps[j]? = some ps[j] := List.getElem?_eq_getElem hj
    have hpos := List.length_pos_of_ne_nil (hne _ (List.mem_of_getElem? hjp))
    rw [offset_succ hjp]
    rcases Nat.lt_or_eq_of_le (Nat.le_of_lt_succ hij) with hlt | rfl
    · have hbefore := ih hlt (Nat.le_of_succ_le hj)
      omega
    · omega

theorem offset_length (ps : List (List Char)) : offset ps ps.length = ps.flatten.length := by
  rw [offset, List.take_length]

/-! ## Underscores -/

section

variable {cs : List Char} {ps : List (List Char)} (h : Converts cs ps)

include h

theorem Converts.exists_char {i : Nat} {p : List Char} (hp : ps[i]? = some p) :
    ∃ c, cs[i]? = some c ∧
      (StartsWord cs i ∧ p = '_' :: lowered c ∨ ¬ StartsWord cs i ∧ p = lowered c) := by
  have hlt := (List.getElem?_eq_some_iff.mp hp).1
  rw [h.length] at hlt
  have hc : cs[i]? = some cs[i] := List.getElem?_eq_getElem hlt
  refine ⟨cs[i], hc, ?_⟩
  by_cases hstarts : StartsWord cs i
  · exact Or.inl ⟨hstarts, Option.some.inj (hp.symm.trans (h.word i _ hc hstarts))⟩
  · exact Or.inr ⟨hstarts, Option.some.inj (hp.symm.trans (h.inner i _ hc hstarts))⟩

theorem Converts.ne_nil {p : List Char} (hp : p ∈ ps) : p ≠ [] := by
  obtain ⟨i, hi⟩ := List.getElem?_of_mem hp
  obtain ⟨c, -, ⟨-, rfl⟩ | ⟨-, rfl⟩⟩ := h.exists_char hi
  · exact List.cons_ne_nil _ _
  · exact lowered_ne_nil c

theorem Converts.piece_of_underscore {i : Nat} (hi : cs[i]? = some '_') : ps[i]? = some ['_'] := by
  rw [h.inner i '_' hi fun hstarts => hstarts.ne_underscore hi, lowered_underscore]

/-- An underscore is the first character of its piece. -/
theorem Converts.getElem?_flatten_underscore_iff {j : Nat} :
    ps.flatten[j]? = some '_' ↔
      ∃ i, j = offset ps i ∧ (cs[i]? = some '_' ∨ StartsWord cs i) := by
  rw [getElem?_flatten_iff]
  constructor
  · rintro ⟨i, p, k, hp, hk, rfl⟩
    obtain ⟨c, hc, ⟨hstarts, rfl⟩ | ⟨-, rfl⟩⟩ := h.exists_char hp
    · cases k with
      | zero => exact ⟨i, rfl, Or.inr hstarts⟩
      | succ k =>
        have hunderscore := underscore_mem_lowered_iff.mp (List.mem_of_getElem? hk)
        rw [hunderscore] at hc
        exact absurd hc hstarts.ne_underscore
    · obtain rfl := underscore_mem_lowered_iff.mp (List.mem_of_getElem? hk)
      rw [lowered_underscore] at hk
      have hk0 : k < 1 := (List.getElem?_eq_some_iff.mp hk).1
      exact ⟨i, by omega, Or.inl hc⟩
  · rintro ⟨i, rfl, hi | hstarts⟩
    · exact ⟨i, ['_'], 0, h.piece_of_underscore hi, rfl, rfl⟩
    · obtain ⟨c, hc⟩ := hstarts.exists_char
      exact ⟨i, _, 0, h.word i c hc hstarts, rfl, rfl⟩

/-- At least one more character follows an underscore that was put in front of a word. -/
theorem Converts.add_two_le_offset {i : Nat} (hstarts : StartsWord cs i) :
    offset ps i + 2 ≤ offset ps (i + 1) := by
  obtain ⟨c, hc⟩ := hstarts.exists_char
  have hpos := List.length_pos_of_ne_nil (lowered_ne_nil c)
  rw [offset_succ (h.word i c hc hstarts), List.length_cons]
  omega

theorem Converts.offset_le_offset {i j : Nat} (hij : i ≤ j) (hj : j ≤ cs.length) :
    offset ps i ≤ offset ps j := by
  rcases Nat.lt_or_eq_of_le hij with hlt | rfl
  · exact Nat.le_of_lt (offset_lt_offset (fun p hp => h.ne_nil hp) hlt (h.length ▸ hj))
  · exact Nat.le_refl _

theorem Converts.le_of_offset_le {i j : Nat} (hi : i ≤ cs.length)
    (hle : offset ps i ≤ offset ps j) : i ≤ j := by
  by_contra hlt
  have hoffset := offset_lt_offset (fun p hp => h.ne_nil hp) (Nat.lt_of_not_le hlt)
    (h.length ▸ hi)
  omega

/-- Two underscores in a row are two underscores of the text.  Behind one that was put in front of a word
there are small letters, and no word starts behind an underscore. -/
theorem Converts.exists_double {j : Nat} (hj : ps.flatten[j]? = some '_')
    (hnext : ps.flatten[j + 1]? = some '_') :
    ∃ i, j = offset ps i ∧ cs[i]? = some '_' ∧ cs[i + 1]? = some '_' := by
  obtain ⟨i, rfl, hi⟩ := h.getElem?_flatten_underscore_iff.mp hj
  obtain ⟨k, hk, hsecond⟩ := h.getElem?_flatten_underscore_iff.mp hnext
  have hilt := lt_length_of_underscore hi
  have hklt := lt_length_of_underscore hsecond
  have hik : i < k := by
    refine Nat.lt_of_le_of_ne (h.le_of_offset_le (Nat.le_of_lt hilt) (by omega)) ?_
    rintro rfl
    omega
  rcases hi with hi | hstarts
  · have hsucc : offset ps (i + 1) = offset ps i + 1 := offset_succ (h.piece_of_underscore hi)
    obtain rfl : k = i + 1 :=
      Nat.le_antisymm (h.le_of_offset_le (Nat.le_of_lt hklt) (by omega)) hik
    exact ⟨i, rfl, hi, hsecond.resolve_right fun hstarts => hstarts.not_after_underscore hi⟩
  · have htwo := h.add_two_le_offset hstarts
    have hle : offset ps (i + 1) ≤ offset ps k := h.offset_le_offset hik (Nat.le_of_lt hklt)
    omega

theorem Converts.head?_of_underscore (hhead : ps.flatten.head? = some '_') :
    cs.head? = some '_' := by
  rw [List.head?_eq_getElem?] at hhead ⊢
  obtain ⟨i, hoffset, hi⟩ := h.getElem?_flatten_underscore_iff.mp hhead
  have hle := h.le_of_offset_le (j := 0) (Nat.le_of_lt (lt_length_of_underscore hi)) (by omega)
  obtain rfl : i = 0 := Nat.le_zero.mp hle
  exact hi.resolve_right nofun

theorem Converts.getLast?_of_underscore (hlast : ps.flatten.getLast? = some '_') :
    cs.getLast? = some '_' := by
  rw [List.getLast?_eq_getElem?] at hlast ⊢
  have hpos := (List.getElem?_eq_some_iff.mp hlast).1
  obtain ⟨i, hoffset, hi⟩ := h.getElem?_flatten_underscore_iff.mp hlast
  have hilt := lt_length_of_underscore hi
  have hend := offset_length ps
  rw [h.length] at hend
  rcases hi with hi | hstarts
  · have hsucc : offset ps (i + 1) = offset ps i + 1 := offset_succ (h.piece_of_underscore hi)
    have hle := h.le_of_offset_le (Nat.le_refl cs.length) (j := i + 1) (by omega)
    rwa [show cs.length - 1 = i by omega]
  · have htwo := h.add_two_le_offset hstarts
    have hle : offset ps (i + 1) ≤ offset ps cs.length := h.offset_le_offset hilt (Nat.le_refl _)
    omega

end

theorem filter_separated (before : Option Char) (cs : List Char) :
    (separated before cs).filter (· ≠ '_') = (cs.filter (· ≠ '_')).flatMap lowered := by
  induction cs generalizing before with
  | nil => rfl
  | cons c rest ih =>
    have hword : (if startsWord before c rest.head? then ['_'] else []).filter (· ≠ '_') = [] := by
      split <;> rfl
    rw [separated, List.filter_append, List.filter_append, hword, List.nil_append, ih]
    by_cases hc : c = '_'
    · subst hc
      rw [lowered_underscore]
      rfl
    · have hlowered : (lowered c).filter (· ≠ '_') = lowered c := by
        refine List.filter_eq_self.mpr fun d hd => decide_eq_true ?_
        rintro rfl
        exact hc (underscore_mem_lowered_iff.mp hd)
      rw [hlowered, List.filter_cons_of_pos (by simpa using hc), List.flatMap_cons]

/-- The letters of the text are those of the name in small, and its underscores are those of the name and
one in front of each word. -/
structure MarksWords (cs out : List Char) (ps : List (List Char)) : Prop where
  letters : out.filter (· ≠ '_') = (cs.filter (· ≠ '_')).flatMap lowered
  underscore : ∀ j, out[j]? = some '_' ↔
    ∃ i, j = offset ps i ∧ (cs[i]? = some '_' ∨ StartsWord cs i)
  double : ∀ j, out[j]? = some '_' → out[j + 1]? = some '_' →
    ∃ i, j = offset ps i ∧ cs[i]? = some '_' ∧ cs[i + 1]? = some '_'
  head : out.head? = some '_' → cs.head? = some '_'
  last : out.getLast? = some '_' → cs.getLast? = some '_'

/-- A column consists of the pieces that the characters of its name become, and neither an underscore nor
any other character of it comes from anywhere else. -/
theorem columnName_marksWords (name : String) :
    ∃ ps, Converts name.toList ps ∧ (columnName name).toList = ps.flatten ∧
      MarksWords name.toList (columnName name).toList ps := by
  have hconverts := converts_pieces name.toList
  have hflatten : (columnName name).toList = (pieces none name.toList).flatten := by
    rw [toList_columnName, flatten_pieces]
  refine ⟨pieces none name.toList, hconverts, hflatten, ?_⟩
  refine ⟨?_, ?_, ?_, ?_, ?_⟩
  · rw [toList_columnName, filter_separated]
  · rw [hflatten]
    exact fun j => hconverts.getElem?_flatten_underscore_iff
  · rw [hflatten]
    exact fun j => hconverts.exists_double
  · rw [hflatten]
    exact hconverts.head?_of_underscore
  · rw [hflatten]
    exact hconverts.getLast?_of_underscore

/-! ## Plain texts -/

/-- Every character is its own small letter, and no word starts in the text. -/
structure IsPlain (text : String) : Prop where
  lowered : ∀ c ∈ text.toList, lowered c = [c]
  unbroken : ∀ i, ¬ StartsWord text.toList i

theorem lowered_of_mem_separated {before : Option Char} {cs : List Char} {d : Char}
    (h : d ∈ separated before cs) : lowered d = [d] := by
  induction cs generalizing before with
  | nil => contradiction
  | cons c rest ih =>
    rw [separated, List.append_assoc, List.mem_append, List.mem_append] at h
    rcases h with hword | hc | hrest
    · split at hword
      · rw [List.mem_singleton.mp hword]
        exact lowered_underscore
      · contradiction
    · exact lowered_of_mem_lowered hc
    · exact ih hrest

/-- A conversion that changes nothing has put no underscore anywhere, as it would stand in the place of a
capital. -/
theorem startsWord_of_separated_eq_self {before : Option Char} {cs : List Char}
    (h : separated before cs = cs) {i : Nat} {c : Char} (hc : cs[i]? = some c) :
    startsWord (preceding before cs i) c cs[i + 1]? = false := by
  induction cs generalizing before i with
  | nil => contradiction
  | cons b rest ih =>
    have hb : lowered b = [b] := lowered_of_mem_separated (h ▸ List.mem_cons_self)
    rw [separated, hb] at h
    have hinner : startsWord before b rest.head? = false := by
      rw [← Bool.not_eq_true]
      intro hstarts
      rw [if_pos hstarts] at h
      have hcapital := isUppercase_of_startsWord hstarts
      rw [← (List.cons_eq_cons.mp h).1, underscore_isNoLetter.1] at hcapital
      contradiction
    rw [hinner] at h
    cases i with
    | zero =>
      obtain rfl := Option.some.inj hc
      rw [List.head?_eq_getElem?] at hinner
      exact hinner
    | succ i =>
      have hpreceding : preceding before (b :: rest) (i + 1) = preceding (some b) rest i := by
        cases i <;> rfl
      rw [hpreceding]
      exact ih (List.cons_eq_cons.mp h).2 hc

theorem columnName_eq_self_iff {text : String} : columnName text = text ↔ IsPlain text := by
  rw [← String.toList_inj, toList_columnName]
  constructor
  · intro h
    refine ⟨fun c hc => lowered_of_mem_separated (h ▸ hc), fun i hstarts => ?_⟩
    obtain ⟨c, hc⟩ := hstarts.exists_char
    have hinner := startsWord_of_separated_eq_self h hc
    rw [(startsWord_preceding_iff hc).mpr hstarts] at hinner
    contradiction
  · rintro ⟨hlowered, hunbroken⟩
    have hpieces : pieces none text.toList = text.toList.map ([·]) := by
      apply List.ext_getElem?
      intro i
      rw [List.getElem?_map]
      cases hc : text.toList[i]? with
      | none => rw [getElem?_pieces, hc]; rfl
      | some c =>
        rw [(converts_pieces _).inner i c hc (hunbroken i), hlowered c (List.mem_of_getElem? hc)]
        rfl
    rw [← flatten_pieces, hpieces, ← List.flatMap_def, List.flatMap_singleton']

/-! ## Stability -/

/-- Every capital of the name has a small letter. -/
def HasSmallLetters (name : String) : Prop :=
  ∀ c ∈ name.toList, isUppercase c = true → lowered c ≠ [c]

theorem isUppercase_of_mem_separated {before : Option Char} {cs : List Char}
    (hsmall : ∀ c ∈ cs, isUppercase c = true → lowered c ≠ [c]) {d : Char}
    (h : d ∈ separated before cs) : isUppercase d = false := by
  induction cs generalizing before with
  | nil => exact absurd h List.not_mem_nil
  | cons c rest ih =>
    rw [separated, List.append_assoc, List.mem_append, List.mem_append] at h
    rcases h with hword | hc | hrest
    · split at hword
      · rw [List.mem_singleton.mp hword]
        exact underscore_isNoLetter.1
      · contradiction
    · rw [← Bool.not_eq_true]
      intro hd
      have hself := lowered_of_isUppercase hc hd
      rw [hself, List.mem_singleton] at hc
      exact hsmall c List.mem_cons_self (hc ▸ hd) hself
    · exact ih (fun b hb => hsmall b (List.mem_cons_of_mem c hb)) hrest

theorem isPlain_columnName {name : String} (hsmall : HasSmallLetters name) :
    IsPlain (columnName name) := by
  refine ⟨?_, fun i hstarts => ?_⟩
  · rw [toList_columnName]
    exact fun c hc => lowered_of_mem_separated hc
  · obtain ⟨c, hc⟩ := hstarts.exists_char
    have hcapital := hstarts.isUppercase hc
    rw [toList_columnName] at hc
    rw [isUppercase_of_mem_separated hsmall (List.mem_of_getElem? hc)] at hcapital
    exact Bool.false_ne_true hcapital

/-- What follows a character in a text that was converted starts no word that was not started before. -/
theorem startsWord_of_separated {before : Option Char} {c : Char} {rest : List Char}
    (hrest : ∀ d ∈ rest, lowered d = [d])
    (h : startsWord before c (separated (some c) rest).head? = true) :
    startsWord before c rest.head? = true := by
  cases rest with
  | nil => exact h
  | cons d rest =>
    rw [separated, hrest d List.mem_cons_self] at h
    split at h
    · cases before with
      | none => exact h
      | some b =>
        rw [List.append_assoc, List.singleton_append, List.head?_cons, startsWord_some_iff] at h
        obtain ⟨hcapital, hsmall | ⟨-, _, hd, hlower⟩⟩ := h
        · exact startsWord_some_iff.mpr ⟨hcapital, Or.inl hsmall⟩
        · rw [← Option.some.inj hd, underscore_isNoLetter.2.1] at hlower
          contradiction
    · exact h

/-- Where nothing is left to be lowered, a first conversion puts an underscore in front of each word, and a
second one finds no word but behind an underscore. -/
theorem separated_separated {cs : List Char} (h : ∀ c ∈ cs, lowered c = [c]) (before : Option Char) :
    separated before (separated before cs) = separated before cs := by
  induction cs generalizing before with
  | nil => rfl
  | cons c rest ih =>
    obtain ⟨hc, hrest⟩ := List.forall_mem_cons.mp h
    have htail := ih hrest (some c)
    by_cases hstarts : startsWord before c rest.head? = true
    · have hout : separated before (c :: rest) = '_' :: c :: separated (some c) rest := by
        rw [separated, if_pos hstarts, hc]
        rfl
      rw [hout, separated, startsWord_of_not_isUppercase underscore_isNoLetter.1, lowered_underscore,
        separated, startsWord_underscore, hc, htail]
      rfl
    · have hout : separated before (c :: rest) = c :: separated (some c) rest := by
        rw [separated, if_neg hstarts, hc]
        rfl
      have hinner : startsWord before c (separated (some c) rest).head? = false := by
        rw [← Bool.not_eq_true]
        exact fun hsecond => hstarts (startsWord_of_separated hrest hsecond)
      rw [hout, separated, hinner, hc, htail]
      rfl

theorem hasSmallLetters_of_ascii {name : String} (h : ∀ c ∈ name.toList, c.toNat < 128) :
    HasSmallLetters name := by
  have hascii : ∀ n < 128, isUppercase (Char.ofNat n) = true →
      lowered (Char.ofNat n) ≠ [Char.ofNat n] := by decide +kernel
  intro c hc
  have hlowered := hascii c.toNat (h c hc)
  rwa [Char.ofNat_toNat] at hlowered

/-- Converting a name again changes nothing, and no capital is left, if every capital of the name has a
small letter, as all basic letters have.  Whatever the name, converting it a third time changes
nothing. -/
theorem columnName_stable (name : String) :
    (HasSmallLetters name → columnName (columnName name) = columnName name ∧
      ∀ c ∈ (columnName name).toList, isUppercase c = false) ∧
    ((∀ c ∈ name.toList, c.toNat < 128) → HasSmallLetters name) ∧
    columnName (columnName (columnName name)) = columnName (columnName name) := by
  refine ⟨fun hsmall => ⟨?_, ?_⟩, hasSmallLetters_of_ascii, ?_⟩
  · exact columnName_eq_self_iff.mpr (isPlain_columnName hsmall)
  · rw [toList_columnName]
    exact fun c hc => isUppercase_of_mem_separated hsmall hc
  · apply String.toList_inj.mp
    rw [toList_columnName, toList_columnName, toList_columnName]
    exact separated_separated (fun c hc => lowered_of_mem_separated hc) none

theorem columnName_stable_httpServer :
    HasSmallLetters "HTTPServer2URL" ∧ columnName "HTTPServer2URL" = "http_server2_url" ∧
      columnName (columnName "HTTPServer2URL") = columnName "HTTPServer2URL" ∧
      ∀ c ∈ (columnName "HTTPServer2URL").toList, isUppercase c = false := by
  obtain ⟨hstable, hascii, -⟩ := columnName_stable "HTTPServer2URL"
  have hbasic : "HTTPServer2URL".toList.all (·.toNat < 128) = true := by decide +kernel
  have hsmall : HasSmallLetters "HTTPServer2URL" :=
    hascii fun c hc => of_decide_eq_true (List.all_eq_true.mp hbasic c hc)
  exact ⟨hsmall, by decide +kernel, hstable hsmall⟩

/-- The double-struck capital has no small letter, and starts a word only when the letter before it has
become small. -/
example : columnName "SetAℂB" = "set_aℂb" ∧ columnName "set_aℂb" = "set_a_ℂb" := by decide +kernel

end Naming
end RecordMapping
