import Mathlib.Data.List.Dedup
import Mathlib.Data.List.DropRight
import Mathlib.Data.List.Forall2
import Mathlib.Data.String.Basic
import RecordMapping.Proofs.Casing
import RecordMapping.Settings

/-!
What settings hold.

The parts of an annotation are put one after the other into a list that is sorted by keys.  In the end
there stand under each key the values of just those parts that have this key, in their order.  Keys are
stored in the form in which they are looked up, and bringing a key into this form twice is bringing it
there once, as no capital has blanks in its place and no capital has other capitals.
-/

namespace RecordMapping

open Text

/-! ## Keys -/

namespace Text

/-- No blank is at either end. -/
structure IsTrimmed (cs : List Char) : Prop where
  head : ∀ c, cs.head? = some c → isBlank c = false
  last : ∀ c, cs.getLast? = some c → isBlank c = false

theorem isTrimmed_trimmed (cs : List Char) : IsTrimmed (trimmed cs) := by
  have htrimmed : trimmed cs = (cs.dropWhile isBlank).rdropWhile isBlank := rfl
  constructor
  · intro c hc
    obtain ⟨rest, hrest⟩ := List.rdropWhile_prefix isBlank (l := cs.dropWhile isBlank)
    have hhead : (cs.dropWhile isBlank).head? = some c := by
      rw [← hrest, List.head?_append, ← htrimmed, hc]
      rfl
    have hblank := List.head?_dropWhile_not isBlank cs
    rw [hhead] at hblank
    exact hblank
  · intro c hc
    have hne : (cs.dropWhile isBlank).rdropWhile isBlank ≠ [] := by
      intro hnil
      rw [htrimmed, hnil] at hc
      contradiction
    rw [htrimmed, List.getLast?_eq_some_getLast hne] at hc
    rw [← Option.some.inj hc, ← Bool.not_eq_true]
    exact List.rdropWhile_last_not _ _ hne

theorem IsTrimmed.trimmed {cs : List Char} (h : IsTrimmed cs) : trimmed cs = cs := by
  have hfront : cs.dropWhile isBlank = cs := by
    cases cs with
    | nil => rfl
    | cons c rest => rw [List.dropWhile_cons, h.head c rfl]; rfl
  show (cs.dropWhile isBlank).rdropWhile isBlank = cs
  rw [hfront, List.rdropWhile_eq_self_iff]
  intro hne
  rw [h.last _ (List.getLast?_eq_some_getLast hne)]
  exact Bool.false_ne_true

theorem head?_capitals (cs : List Char) :
    (capitals cs).head? = cs.head?.bind fun c => (raised c).head? := by
  cases cs with
  | nil => rfl
  | cons c rest =>
    obtain ⟨d, ds, hraised⟩ := List.exists_cons_of_ne_nil (raised_ne_nil c)
    simp [capitals, hraised]

theorem getLast?_capitals (cs : List Char) :
    (capitals cs).getLast? = cs.getLast?.bind fun c => (raised c).getLast? := by
  induction cs using List.reverseRecOn with
  | nil => rfl
  | append_singleton cs c _ =>
    obtain ⟨d, hlast⟩ := Option.ne_none_iff_exists'.mp
      (mt List.getLast?_eq_none_iff.mp (raised_ne_nil c))
    simp [capitals, hlast]

theorem IsTrimmed.capitals {cs : List Char} (h : IsTrimmed cs) : IsTrimmed (capitals cs) := by
  have hraised : ∀ c d, isBlank c = false → d ∈ raised c → isBlank d = false := by
    intro c d hc hd
    rw [← Bool.not_eq_true] at hc ⊢
    exact fun hblank => hc (isBlank_of_mem_raised hd hblank)
  constructor
  · intro d hd
    rw [head?_capitals, Option.bind_eq_some_iff] at hd
    obtain ⟨c, hc, hd⟩ := hd
    exact hraised c d (h.head c hc) (List.mem_of_head? hd)
  · intro d hd
    rw [getLast?_capitals, Option.bind_eq_some_iff] at hd
    obtain ⟨c, hc, hd⟩ := hd
    exact hraised c d (h.last c hc) (List.mem_of_getLast? hd)

end Text

namespace Settings

theorem toList_normalKey (key : String) :
    (normalKey key).toList = capitals (trimmed key.toList) := by
  rw [normalKey, toUpper, trim, String.toList_ofList, String.toList_ofList]

/-- A key that was read is found under itself. -/
theorem normalKey_normalKey (key : String) : normalKey (normalKey key) = normalKey key := by
  apply String.toList_inj.mp
  rw [toList_normalKey, toList_normalKey, (isTrimmed_trimmed _).capitals.trimmed,
    capitals_capitals]

/-! ## Parts -/

/-- A part of an annotation is a key and a value around the first colon, or a key that is its own
value.  The key is read without the blanks around it and in capitals, the value as it stands. -/
inductive Reads : List Char → String × String → Prop
  | pair {key : List Char} (value : List Char) (h : ':' ∉ key) :
      Reads (key ++ ':' :: value) (toUpper (trim (String.ofList key)), String.ofList value)
  | lone {key : List Char} (h : ':' ∉ key) :
      Reads key (toUpper (trim (String.ofList key)), toUpper (trim (String.ofList key)))

theorem reads_segment (text : List Char) : Reads text (segment text) := by
  by_cases hcolon : ':' ∈ text
  · obtain ⟨key, value, rfl, hkey⟩ := List.eq_append_cons_of_mem hcolon
    rw [segment, cut_append_cons hkey]
    exact .pair value hkey
  · rw [segment, cut_of_not_mem hcolon]
    exact .lone hcolon

theorem Reads.normalKey {text : List Char} {part : String × String} (h : Reads text part) :
    normalKey part.1 = part.1 := by
  cases h with
  | pair value h => exact normalKey_normalKey _
  | lone h => exact normalKey_normalKey _

/-- The values of the parts with this key. -/
def valuesUnder (key : String) (parts : List (String × String)) : List String :=
  (parts.filter (·.1 = key)).map (·.2)

/-- Several values, with colons between them. -/
def joined? (values : List String) : Option String :=
  if values = [] then none else some (":".intercalate values)

theorem valuesUnder_concat (key : String) (parts : List (String × String)) (part : String × String) :
    valuesUnder key (parts ++ [part]) =
      valuesUnder key parts ++ if part.1 = key then [part.2] else [] := by
  by_cases hkey : part.1 = key
  · simp [valuesUnder, List.filter_append, hkey]
  · simp [valuesUnder, List.filter_append, hkey]

theorem valuesUnder_eq_nil_iff {key : String} {parts : List (String × String)} :
    valuesUnder key parts = [] ↔ key ∉ parts.map (·.1) := by
  rw [valuesUnder, List.map_eq_nil_iff, List.filter_eq_nil_iff]
  constructor
  · intro h hkey
    obtain ⟨part, hpart, rfl⟩ := List.mem_map.mp hkey
    exact h part hpart (decide_eq_true rfl)
  · intro h part hpart hkey
    rw [← of_decide_eq_true hkey] at h
    exact h (List.mem_map_of_mem hpart)

theorem intercalate_concat {values : List String} (h : values ≠ []) (value : String) :
    ":".intercalate (values ++ [value]) = ":".intercalate values ++ ":" ++ value := by
  induction values with
  | nil => contradiction
  | cons first rest ih =>
    cases rest with
    | nil => simp
    | cons second rest =>
      have hrest := ih (List.cons_ne_nil second rest)
      rw [List.cons_append, List.cons_append, String.intercalate_cons_cons, ← List.cons_append, hrest,
        String.intercalate_cons_cons]
      simp only [String.append_assoc]

theorem joined?_eq_none_iff {values : List String} : joined? values = none ↔ values = [] := by
  by_cases hvalues : values = []
  · simp [joined?, hvalues]
  · simp [joined?, hvalues]

theorem joined?_concat (values : List String) (value : String) :
    joined? (values ++ [value]) =
      some (((joined? values).map (· ++ ":" ++ value)).getD value) := by
  by_cases hvalues : values = []
  · simp [joined?, hvalues]
  · simp [joined?, hvalues, intercalate_concat hvalues value]

/-! ## Sorted entries -/

/-- The keys stand in ascending order, and none of them twice. -/
def IsAscending (entries : List (String × String)) : Prop := (entries.map (·.1)).Pairwise (· < ·)

theorem lookup_eq_none_iff_not_mem {key : String} {entries : List (String × String)} :
    entries.lookup key = none ↔ key ∉ entries.map (·.1) := by
  rw [List.lookup_eq_none_iff]
  constructor
  · intro h hkey
    obtain ⟨entry, hentry, rfl⟩ := List.mem_map.mp hkey
    exact bne_iff_ne.mp (h entry hentry) rfl
  · intro h entry hentry
    rw [bne_iff_ne]
    rintro rfl
    exact h (List.mem_map_of_mem hentry)

/-- Before the first key there is nothing to be found. -/
theorem IsAscending.lookup_eq_none {key k v : String} {rest : List (String × String)}
    (h : IsAscending ((k, v) :: rest)) (hlt : key < k) : ((k, v) :: rest).lookup key = none := by
  obtain ⟨hhead, -⟩ := List.pairwise_cons.mp h
  rw [lookup_eq_none_iff_not_mem, List.map_cons, List.mem_cons]
  rintro (heq | hrest)
  · exact ne_of_lt hlt heq
  · exact lt_asymm hlt (hhead key hrest)

theorem IsAscending.lookup_of_mem {entries : List (String × String)} (h : IsAscending entries)
    {entry : String × String} (hentry : entry ∈ entries) :
    entries.lookup entry.1 = some entry.2 := by
  induction entries with
  | nil => contradiction
  | cons first rest ih =>
    obtain ⟨hhead, hrest⟩ := List.pairwise_cons.mp h
    rcases List.mem_cons.mp hentry with rfl | hmem
    · exact List.lookup_cons_self
    · have hne := ne_of_gt (hhead entry.1 (List.mem_map_of_mem hmem))
      rw [List.lookup_cons, beq_eq_false_iff_ne.mpr hne]
      exact ih hrest hmem

theorem lookup_add_self {entries : List (String × String)} (h : IsAscending entries)
    (key value : String) :
    (add key value entries).lookup key =
      some (((entries.lookup key).map (· ++ ":" ++ value)).getD value) := by
  induction entries with
  | nil => simp [add]
  | cons entry rest ih =>
    obtain ⟨k, v⟩ := entry
    unfold add
    split
    · next hlt =>
      rw [h.lookup_eq_none hlt]
      simp
    · split
      · next heq =>
        subst heq
        simp
      · next hne =>
        have hk : (key == k) = false := beq_eq_false_iff_ne.mpr hne
        rw [List.lookup_cons, List.lookup_cons, hk]
        exact ih (List.Pairwise.of_cons h)

theorem mem_keys_add {key value k : String} {entries : List (String × String)}
    (h : k ∈ (add key value entries).map (·.1)) : k = key ∨ k ∈ entries.map (·.1) := by
  induction entries with
  | nil => simpa [add] using h
  | cons entry rest ih =>
    obtain ⟨k', v⟩ := entry
    unfold add at h
    split at h
    · simpa using h
    · split at h
      · exact Or.inr h
      · rcases List.mem_cons.mp h with hhead | hrest
        · exact Or.inr (List.mem_cons.mpr (Or.inl hhead))
        · exact (ih hrest).imp_right (List.mem_cons_of_mem _)

theorem IsAscending.add {entries : List (String × String)} (h : IsAscending entries)
    (key value : String) : IsAscending (add key value entries) := by
  induction entries with
  | nil => exact List.pairwise_singleton _ _
  | cons entry rest ih =>
    obtain ⟨k, v⟩ := entry
    obtain ⟨hhead, hrest⟩ := List.pairwise_cons.mp h
    unfold Settings.add
    split
    · next hlt =>
      refine List.pairwise_cons.mpr ⟨?_, h⟩
      intro k' hk'
      rcases List.mem_cons.mp hk' with rfl | hmem
      · exact hlt
      · exact lt_trans hlt (hhead k' hmem)
    · next hnlt =>
      split
      · exact h
      · next hne =>
        refine List.pairwise_cons.mpr ⟨?_, ih hrest⟩
        intro k' hk'
        rcases mem_keys_add hk' with rfl | hmem
        · exact lt_of_le_of_ne (not_lt.mp hnlt) (Ne.symm hne)
        · exact hhead k' hmem

theorem isAscending_ofSegments (parts : List (String × String)) :
    IsAscending (ofSegments parts).entries := by
  induction parts using List.reverseRecOn with
  | nil => exact List.Pairwise.nil
  | append_singleton parts part ih =>
    rw [ofSegments_append]
    exact ih.add part.1 part.2

/-- Under each key stand the values of the parts with this key. -/
theorem lookup_ofSegments (parts : List (String × String)) (key : String) :
    (ofSegments parts).entries.lookup key = joined? (valuesUnder key parts) := by
  induction parts using List.reverseRecOn with
  | nil => rfl
  | append_singleton parts part ih =>
    rw [ofSegments_append, valuesUnder_concat]
    show (add part.1 part.2 (ofSegments parts).entries).lookup key = _
    by_cases hkey : part.1 = key
    · subst hkey
      rw [lookup_add_self (isAscending_ofSegments parts), ih, if_pos rfl, joined?_concat]
    · rw [lookup_add_of_ne (Ne.symm hkey), ih, if_neg hkey, List.append_nil]

theorem mem_keys_ofSegments_iff {parts : List (String × String)} {key : String} :
    key ∈ (ofSegments parts).entries.map (·.1) ↔ key ∈ parts.map (·.1) := by
  rw [← not_iff_not, ← lookup_eq_none_iff_not_mem, lookup_ofSegments, joined?_eq_none_iff,
    valuesUnder_eq_nil_iff]

theorem valuesUnder_filter {key : String} (h : key ≠ "") (parts : List (String × String)) :
    valuesUnder key (parts.filter (·.1 ≠ "")) = valuesUnder key parts := by
  rw [valuesUnder, List.filter_filter, valuesUnder]
  congr 1
  apply List.filter_congr
  intro part _
  by_cases hkey : part.1 = key
  · simp [hkey, h]
  · simp [hkey]

theorem ofSources_eq (sources : List String) :
    ofSources sources =
      ofSegments (((sources.flatMap fun text => text.toList.splitOn ';').map segment).filter
        (·.1 ≠ "")) := by
  rw [ofSources, List.map_flatMap, List.filter_flatMap]
  rfl

/-- What is found in settings that were read in these parts.  A part without a key is left out, and a
key is looked for without the blanks around it and in capitals. -/
structure Accumulates (s : Settings) (parts : List (String × String)) : Prop where
  missing : ∀ key, s.get? key = none ↔ ∀ part ∈ parts, part.1 ≠ "" → part.1 ≠ toUpper (trim key)
  found : ∀ key, s.get? key ≠ none →
    s.get? key = some (":".intercalate (valuesUnder (toUpper (trim key)) parts))
  contains : ∀ key, s.contains key = true ↔ s.get? key ≠ none
  ascending : IsAscending s.entries
  listed : ∀ entry ∈ s.entries, entry.1 ≠ "" ∧ s.get? entry.1 = some entry.2
  size : s.size = ((parts.map (·.1)).filter (· ≠ "")).dedup.length

section

variable (parts : List (String × String))

theorem get?_ofSegments (key : String) :
    (ofSegments parts).get? key = joined? (valuesUnder (normalKey key) parts) :=
  lookup_ofSegments parts (normalKey key)

theorem length_entries_ofSegments :
    (ofSegments parts).entries.length = (parts.map (·.1)).dedup.length := by
  have hnodup : ((ofSegments parts).entries.map (·.1)).Nodup :=
    (isAscending_ofSegments parts).imp fun hlt => ne_of_lt hlt
  have hperm : ((ofSegments parts).entries.map (·.1)).Perm (parts.map (·.1)).dedup := by
    refine (List.perm_ext_iff_of_nodup hnodup (List.nodup_dedup _)).mpr fun key => ?_
    rw [mem_keys_ofSegments_iff, List.mem_dedup]
  rw [← hperm.length_eq, List.length_map]

/-- A key that is stored is found, provided that it is stored in the form in which it is looked up. -/
theorem get?_of_mem_entries (hnormal : ∀ part ∈ parts, normalKey part.1 = part.1)
    {entry : String × String} (h : entry ∈ (ofSegments parts).entries) :
    (ofSegments parts).get? entry.1 = some entry.2 := by
  obtain ⟨part, hpart, hkey⟩ := List.mem_map.mp
    (mem_keys_ofSegments_iff.mp (List.mem_map_of_mem h))
  rw [get?, ← hkey, hnormal part hpart, hkey]
  exact (isAscending_ofSegments parts).lookup_of_mem h

theorem accumulates_ofSegments (hnormal : ∀ part ∈ parts, normalKey part.1 = part.1) :
    (ofSegments (parts.filter (·.1 ≠ ""))).Accumulates parts := by
  have hmem : ∀ key, key ∈ (parts.filter (·.1 ≠ "")).map (·.1) ↔
      ∃ part ∈ parts, part.1 ≠ "" ∧ part.1 = key := by
    intro key
    simp [and_assoc]
  have hget : ∀ key, (ofSegments (parts.filter (·.1 ≠ ""))).get? key =
      joined? (valuesUnder (toUpper (trim key)) (parts.filter (·.1 ≠ ""))) :=
    get?_ofSegments _
  have hmissing : ∀ key, (ofSegments (parts.filter (·.1 ≠ ""))).get? key = none ↔
      ∀ part ∈ parts, part.1 ≠ "" → part.1 ≠ toUpper (trim key) := by
    intro key
    rw [hget, joined?_eq_none_iff, valuesUnder_eq_nil_iff, hmem]
    push Not
    rfl
  refine ⟨hmissing, ?_, ?_, isAscending_ofSegments _, ?_, ?_⟩
  · intro key hfound
    have hne : toUpper (trim key) ≠ "" := by
      intro hempty
      apply hfound
      rw [hmissing, hempty]
      exact fun part _ hpart => hpart
    rw [hget, valuesUnder_filter hne] at hfound ⊢
    rw [joined?, if_neg (mt joined?_eq_none_iff.mpr hfound)]
  · intro key
    rw [contains, Option.isSome_iff_ne_none]
  · intro entry hentry
    have hkeys := mem_keys_ofSegments_iff.mp (List.mem_map_of_mem hentry)
    obtain ⟨part, -, hne, hkey⟩ := (hmem entry.1).mp hkeys
    refine ⟨hkey ▸ hne, get?_of_mem_entries _ ?_ hentry⟩
    exact fun part hpart => hnormal part (List.mem_of_mem_filter hpart)
  · rw [size, length_entries_ofSegments, List.filter_map]
    rfl

end

/-- Reading any annotations accumulates their parts, which are cut at semicolons and each read as a key
and a value. -/
theorem ofSources_accumulates (sources : List String) :
    ∃ parts, List.Forall₂ Reads (sources.flatMap fun text => text.toList.splitOn ';') parts ∧
      (ofSources sources).Accumulates parts := by
  refine ⟨(sources.flatMap fun text => text.toList.splitOn ';').map segment, ?_, ?_⟩
  · rw [List.forall₂_map_right_iff, List.forall₂_same]
    exact fun text _ => reads_segment text
  · rw [ofSources_eq]
    apply accumulates_ofSegments
    intro part hpart
    obtain ⟨text, -, rfl⟩ := List.mem_map.mp hpart
    exact (reads_segment text).normalKey

/-- One letter with two capitals, blanks around keys, a value without a key and a key without a value. -/
example : ofSources ["straße:a; :b", "Index:c:d;;unique ;STRASSE:"] =
    ⟨[("INDEX", "c:d"), ("STRASSE", "a:"), ("UNIQUE", "UNIQUE")]⟩ := by
  decide +kernel

end Settings
end RecordMapping
