import RecordMapping.Derive.Layout

/-!
Literals of source code.

A literal is read off the front of the code, and what follows it is handed back.  Only the contents
of string literals are of interest.  A raw literal holds its content as it stands.  In the others a
backslash starts an escape.
-/

namespace RecordMapping
namespace Derive

/-! ## Raw literals -/

/-- What stands before the first occurrence of `mark`, and what follows it. -/
def cutAt (mark : List Char) : List Char → Option (List Char × List Char)
  | [] => if mark.isEmpty then some ([], []) else none
  | c :: rest =>
    if mark.isPrefixOf (c :: rest) then some ([], (c :: rest).drop mark.length)
    else (cutAt mark rest).map fun (before, after) => (c :: before, after)

theorem length_le_of_cutAt {mark code before after : List Char}
    (h : cutAt mark code = some (before, after)) : after.length ≤ code.length := by
  induction code generalizing before after with
  | nil => grind [cutAt]
  | cons c rest ih =>
    unfold cutAt at h
    split at h
    · obtain ⟨-, rfl⟩ := Prod.mk.inj (Option.some.inj h)
      simp
    · obtain ⟨⟨_, _⟩, hcut, heq⟩ := Option.map_eq_some_iff.mp h
      obtain ⟨-, rfl⟩ := Prod.mk.inj heq
      exact Nat.le_succ_of_le (ih hcut)

/-- A raw literal ends at the first quote that as many hash signs follow as stand before its opening
quote. -/
def rawLiteral? (code : List Char) : Option (List Char × List Char) :=
  match code with
  | 'r' :: rest =>
    match rest.dropWhile (· == '#') with
    | '"' :: body => cutAt ('"' :: rest.takeWhile (· == '#')) body
    | _ => none
  | _ => none

theorem length_lt_of_rawLiteral? {code content rest : List Char}
    (h : rawLiteral? code = some (content, rest)) : rest.length < code.length := by
  unfold rawLiteral? at h
  split at h
  · rename_i opening
    split at h
    · rename_i body hbody
      have hcut := length_le_of_cutAt h
      have hle := (List.dropWhile_sublist (· == '#') (l := opening)).length_le
      rw [hbody, List.length_cons] at hle
      rw [List.length_cons]
      omega
    · simp at h
  · simp at h

/-! ## Literals with escapes -/

/-- What the escape by the one character `c` stands for. -/
def simpleEscape? (c : Char) : Option Char :=
  match c with
  | 'n' => some '\n'
  | 'r' => some '\r'
  | 't' => some '\t'
  | '0' => some '\x00'
  | '\\' => some '\\'
  | '\'' => some '\''
  | '"' => some '"'
  | _ => none

def hexDigit? (c : Char) : Option Nat :=
  if '0' ≤ c ∧ c ≤ '9' then some (c.toNat - '0'.toNat)
  else if 'a' ≤ c ∧ c ≤ 'f' then some (c.toNat - 'a'.toNat + 10)
  else if 'A' ≤ c ∧ c ≤ 'F' then some (c.toNat - 'A'.toNat + 10)
  else none

/-- Surrogates are no characters. -/
def charOfCode? (n : Nat) : Option Char :=
  if n.isValidChar then some (Char.ofNat n) else none

/-- The character of two hexadecimal digits, which reach no further than ASCII. -/
def charOfDigits? (high low : Char) : Option Char := do
  let n := 16 * (← hexDigit? high) + (← hexDigit? low)
  if n < 128 then charOfCode? n else none

/-- Where a reader is in a literal. -/
inductive Quoting where
  /-- Outside escapes.  At the start of a line whose end before it was escaped, blanks are left
  out. -/
  | text (margin : Bool)
  /-- Behind a backslash. -/
  | escape
  /-- In the braces of an escape by code point, behind digits of this value. -/
  | codePoint (digits value : Nat)
deriving DecidableEq, Repr

/-- A reading with one more character in front of its content. -/
def precede (c : Char) (reading? : Option (List Char × List Char)) :
    Option (List Char × List Char) :=
  reading?.map fun (content, rest) => (c :: content, rest)

/-- The content up to the closing quote, and what follows the quote.  Line ends of two characters
count as one.  A code point takes one to six digits, with low lines between and after them. -/
def Quoting.read : Quoting → List Char → Option (List Char × List Char)
  | _, [] => none
  | .text margin, '\r' :: '\n' :: rest =>
    if margin then read (.text true) rest else precede '\n' (read (.text false) rest)
  | .text margin, c :: rest =>
    if c = '"' then some ([], rest)
    else if c = '\\' then read .escape rest
    else if c = '\r' then none
    else if margin ∧ c ∈ [' ', '\t', '\n'] then read (.text true) rest
    else precede c (read (.text false) rest)
  | .escape, '\n' :: rest => read (.text true) rest
  | .escape, '\r' :: '\n' :: rest => read (.text true) rest
  | .escape, 'x' :: high :: low :: rest =>
    (charOfDigits? high low).bind fun c => precede c (read (.text false) rest)
  | .escape, 'u' :: '\x7b' :: rest => read (.codePoint 0 0) rest
  | .escape, c :: rest =>
    (simpleEscape? c).bind fun c => precede c (read (.text false) rest)
  | .codePoint 0 value, c :: rest =>
    (hexDigit? c).bind fun d => read (.codePoint 1 (16 * value + d)) rest
  | .codePoint (digits + 1) value, c :: rest =>
    if c = '\x7d' then (charOfCode? value).bind fun c => precede c (read (.text false) rest)
    else if c = '_' then read (.codePoint (digits + 1) value) rest
    else if digits < 5 then
      (hexDigit? c).bind fun d => read (.codePoint (digits + 2) (16 * value + d)) rest
    else none

theorem Quoting.length_le_of_read {q : Quoting} {code content rest : List Char}
    (h : q.read code = some (content, rest)) : rest.length ≤ code.length := by
  fun_induction Quoting.read q code generalizing content rest <;>
    grind [precede, Option.map_eq_some_iff, Option.bind_eq_some_iff]

/-! ## The literals of code -/

/-- Beyond ASCII nothing but names and blanks is source code. -/
def isNameChar (c : Char) : Bool :=
  c.isAlphanum || c == '_' || (128 ≤ c.toNat && !isGap c)

def isNameStart (c : Char) : Bool := isNameChar c && !c.isDigit

/-- The code behind the name it starts with, if it starts with one.  A name without a blank before
it is a suffix of the literal there. -/
def skipSuffix (code : List Char) : List Char :=
  if code.head?.any isNameStart then code.dropWhile isNameChar else code

theorem length_skipSuffix_le (code : List Char) : (skipSuffix code).length ≤ code.length := by
  unfold skipSuffix
  split
  · exact (List.dropWhile_sublist isNameChar).length_le
  · exact Nat.le_refl _

/-- The content of the string literal that the code starts with. -/
def stringLiteral? (code : List Char) : Option (List Char × List Char) :=
  let reading? :=
    match code with
    | '"' :: body => (Quoting.text false).read body
    | code => rawLiteral? code
  reading?.map fun (content, rest) => (content, skipSuffix rest)

theorem length_lt_of_stringLiteral? {code content rest : List Char}
    (h : stringLiteral? code = some (content, rest)) : rest.length < code.length := by
  obtain ⟨⟨_, behind⟩, hr, heq⟩ := Option.map_eq_some_iff.mp h
  obtain ⟨-, rfl⟩ := Prod.mk.inj heq
  refine Nat.lt_of_le_of_lt (length_skipSuffix_le behind) ?_
  split at hr
  · exact Nat.lt_succ_of_le (Quoting.length_le_of_read hr)
  · exact length_lt_of_rawLiteral? hr

/-- The code behind the first `quote` that is not escaped. -/
def skipQuoted (quote : Char) : List Char → List Char
  | [] => []
  | '\\' :: _ :: rest => skipQuoted quote rest
  | c :: rest => if c = quote then rest else skipQuoted quote rest

theorem length_skipQuoted_le (quote : Char) (code : List Char) :
    (skipQuoted quote code).length ≤ code.length := by
  fun_induction skipQuoted quote code <;> grind

/-- Printed code holds this where it could not be printed.  It counts as a literal. -/
def placeholder : List Char := ['(', '/', '*', 'E', 'R', 'R', 'O', 'R', '*', '/', ')']

/-- The code behind the literal of a character or of bytes that it starts with.  A single quote
starts the name of a lifetime if none follows the next character. -/
def skipLiteral? : List Char → Option (List Char)
  | '\'' :: '\\' :: c :: rest => some (skipSuffix (skipQuoted '\'' ('\\' :: c :: rest)))
  | '\'' :: _ :: '\'' :: rest => some (skipSuffix rest)
  | 'b' :: '\'' :: rest => some (skipSuffix (skipQuoted '\'' rest))
  | 'b' :: '"' :: rest => some (skipSuffix (skipQuoted '"' rest))
  | 'c' :: '"' :: rest => some (skipSuffix (skipQuoted '"' rest))
  | 'b' :: 'r' :: rest => (rawLiteral? ('r' :: rest)).map fun (_, rest) => skipSuffix rest
  | 'c' :: 'r' :: rest => (rawLiteral? ('r' :: rest)).map fun (_, rest) => skipSuffix rest
  | '(' :: rest =>
    if placeholder.isPrefixOf ('(' :: rest) then some (rest.drop (placeholder.length - 1)) else none
  | _ => none

theorem length_lt_of_skipLiteral? {code rest : List Char} (h : skipLiteral? code = some rest) :
    rest.length < code.length := by
  unfold skipLiteral? at h
  split at h <;>
    grind [length_skipSuffix_le, length_skipQuoted_le, → length_lt_of_rawLiteral?,
      Option.map_eq_some_iff]

end Derive
end RecordMapping
