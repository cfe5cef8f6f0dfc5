import RecordMapping.Text.Blank

/-!
What may stand between two tokens of source code: blanks and comments.

Comments that document an item are no layout but tokens of their own.
-/

namespace RecordMapping
namespace Derive

/-- Where a reader is between two tokens. -/
inductive Layout where
  | outside
  /-- In a comment up to the end of the line. -/
  | lineComment
  /-- In a comment between delimiters.  Such comments nest, and `outer` others are open around it. -/
  | blockComment (outer : Nat)
deriving DecidableEq, Repr

/-- The two marks of writing direction count as blanks. -/
def isGap (c : Char) : Bool := Text.isBlank c || c == '\u200e' || c == '\u200f'

/-- Whether a comment documents an item.  Behind its slash and its `sign` stands an exclamation mark
or the sign once more, but not twice, and not at once the slash that ends the comment. -/
def isDocumentation (sign : Char) (comment : List Char) : Bool :=
  match comment with
  | [] => false
  | c :: rest => c == '!' || (c == sign && rest.head? != some sign && rest.head? != some '/')

/-- The code from its next token on. -/
def Layout.skip : Layout → List Char → List Char
  | _, [] => []
  | .outside, '/' :: '/' :: rest =>
    if isDocumentation '/' rest then '/' :: '/' :: rest else skip .lineComment rest
  | .outside, '/' :: '*' :: rest =>
    if isDocumentation '*' rest then '/' :: '*' :: rest else skip (.blockComment 0) rest
  | .outside, c :: rest => if isGap c then skip .outside rest else c :: rest
  | .lineComment, c :: rest => skip (if c = '\n' then .outside else .lineComment) rest
  | .blockComment outer, '/' :: '*' :: rest => skip (.blockComment (outer + 1)) rest
  | .blockComment 0, '*' :: '/' :: rest => skip .outside rest
  | .blockComment (outer + 1), '*' :: '/' :: rest => skip (.blockComment outer) rest
  | .blockComment outer, _ :: rest => skip (.blockComment outer) rest

def skipLayout (code : List Char) : List Char := Layout.outside.skip code

theorem Layout.length_skip_le (l : Layout) (code : List Char) :
    (l.skip code).length ≤ code.length := by
  fun_induction Layout.skip l code <;> grind

end Derive
end RecordMapping
