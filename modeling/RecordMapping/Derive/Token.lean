import RecordMapping.Derive.Literal

/-!
Tokens of source code, as far as they matter to the attributes of an item.

Signs and brackets are taken one by one, and literals other than strings lose their content.
-/

namespace RecordMapping
namespace Derive

inductive Token where
  /-- An identifier or a keyword.  The mark that makes an identifier of a keyword is kept. -/
  | name (text : String)
  /-- A string literal with this content. -/
  | text (content : String)
  | number
  /-- The literal of a character or of bytes, or the placeholder of one. -/
  | literal
  /-- What stands between the segments of a path. -/
  | colons
  /-- A comment that documents an item. -/
  | documentation
  | sign (c : Char)
deriving DecidableEq, Repr

namespace Token

/-- The name that starts with `c`, and the code behind it. -/
def readName (c : Char) (rest : List Char) : Token × List Char :=
  match c, rest with
  | 'r', '#' :: first :: rest =>
    if isNameStart first then
      (.name (String.ofList ('r' :: '#' :: first :: rest.takeWhile isNameChar)),
        rest.dropWhile isNameChar)
    else (.name "r", '#' :: first :: rest)
  | c, rest => (.name (String.ofList (c :: rest.takeWhile isNameChar)), rest.dropWhile isNameChar)

/-- The token that starts with `c` and is no literal in quotes, and the code behind it. -/
def readWord (c : Char) (rest : List Char) : Token × List Char :=
  if isNameStart c then readName c rest
  else if c.isDigit then (.number, rest.dropWhile fun d => isNameChar d || d == '.')
  else
    match c, rest with
    | '/', '/' :: comment => (.documentation, Layout.lineComment.skip comment)
    | '/', '*' :: comment => (.documentation, (Layout.blockComment 0).skip comment)
    | ':', ':' :: rest => (.colons, rest)
    | c, rest => (.sign c, rest)

/-- The token that starts with `c`, and the code behind it.  Code with a comment in front has it for
a token, for layout is skipped before. -/
def read (c : Char) (rest : List Char) : Token × List Char :=
  match stringLiteral? (c :: rest) with
  | some (content, rest) => (.text (String.ofList content), rest)
  | none =>
    match skipLiteral? (c :: rest) with
    | some rest => (.literal, rest)
    | none => readWord c rest

theorem length_readName_le (c : Char) (rest : List Char) :
    (readName c rest).2.length ≤ rest.length := by
  have hle (code : List Char) : (code.dropWhile isNameChar).length ≤ code.length :=
    (List.dropWhile_sublist isNameChar).length_le
  unfold readName
  grind

theorem length_readWord_le (c : Char) (rest : List Char) :
    (readWord c rest).2.length ≤ rest.length := by
  unfold readWord
  split
  · exact length_readName_le c rest
  · split
    · exact (List.dropWhile_sublist _).length_le
    · grind [Layout.length_skip_le]

theorem length_read_le (c : Char) (rest : List Char) : (read c rest).2.length ≤ rest.length := by
  unfold read
  split
  · rename_i h
    exact Nat.le_of_lt_succ (length_lt_of_stringLiteral? h)
  · split
    · rename_i h
      exact Nat.le_of_lt_succ (length_lt_of_skipLiteral? h)
    · exact length_readWord_le c rest

end Token

theorem length_lt_of_skipLayout {code rest : List Char} {c : Char}
    (h : skipLayout code = c :: rest) : rest.length < code.length := by
  have hle := Layout.length_skip_le .outside code
  rw [show Layout.outside.skip code = c :: rest from h, List.length_cons] at hle
  exact hle

/-- The tokens of code. -/
def tokensOf (code : List Char) : List Token :=
  match h : skipLayout code with
  | [] => []
  | c :: rest =>
    have := Nat.lt_of_le_of_lt (Token.length_read_le c rest) (length_lt_of_skipLayout h)
    (Token.read c rest).1 :: tokensOf (Token.read c rest).2
termination_by code.length

def tokens (code : String) : List Token := tokensOf code.toList

end Derive
end RecordMapping
