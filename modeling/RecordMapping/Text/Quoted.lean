import RecordMapping.Text.Graphic

/-!
Texts in double quotes.

The quote, the backslash and four controls are escaped by one character each, and every character
that is not graphic by its code point.  A single quote stands for itself.
-/

namespace RecordMapping
namespace Text

def escape (c : Char) : List Char :=
  match c with
  | '"' => ['\\', '"']
  | '\\' => ['\\', '\\']
  | '\n' => ['\\', 'n']
  | '\r' => ['\\', 'r']
  | '\t' => ['\\', 't']
  | '\x00' => ['\\', '0']
  | c =>
    if isGraphic c then [c]
    else '\\' :: 'u' :: '\x7b' :: Nat.toDigits 16 c.toNat ++ ['\x7d']

def quote (s : String) : String := String.ofList ('"' :: s.toList.flatMap escape ++ ['"'])

/-- As between quotes in source code.  There the short escape of the null character would be read as
part of a number if an octal digit followed. -/
def literalChars : List Char → List Char
  | [] => []
  | c :: rest =>
    (if c = '\x00' ∧ rest.head?.any (fun d => '0' ≤ d && d ≤ '7') then ['\\', 'x', '0', '0']
      else escape c) ++ literalChars rest

def literal (s : String) : String := String.ofList ('"' :: literalChars s.toList ++ ['"'])

end Text
end RecordMapping
