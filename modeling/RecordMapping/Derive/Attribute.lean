import RecordMapping.Derive.Token

/-!
Attributes of source code: a path, and what is said under it.

The functions of this module follow the attribute-parsing library that the deriving macro calls, whose
code is not in the repository.
-/

namespace RecordMapping
namespace Derive

/-- What follows the path of an attribute. -/
inductive Form where
  | word
  /-- Behind a sign of equality. -/
  | value (code : List Token)
  /-- In brackets, as the pieces between the commas. -/
  | list (arguments : List (List Token))
deriving DecidableEq, Repr

structure Attribute where
  path : List Token
  form : Form
deriving DecidableEq, Repr

/-! ## Brackets -/

def isOpening (t : Token) : Bool := t ∈ [.sign '(', .sign '[', .sign '\x7b']

def isClosing (t : Token) : Bool := t ∈ [.sign ')', .sign ']', .sign '\x7d']

/-- The code up to the bracket that closes the innermost one around it, and the code behind that
bracket.  In between, `depth` others are open. -/
def cutBracket : Nat → List Token → List Token × List Token
  | _, [] => ([], [])
  | depth, t :: rest =>
    if isClosing t then
      match depth with
      | 0 => ([], rest)
      | depth + 1 => let (inside, behind) := cutBracket depth rest; (t :: inside, behind)
    else
      let (inside, behind) := cutBracket (if isOpening t then depth + 1 else depth) rest
      (t :: inside, behind)

theorem length_cutBracket_le (depth : Nat) (code : List Token) :
    (cutBracket depth code).2.length ≤ code.length := by
  induction code generalizing depth with
  | nil => simp [cutBracket]
  | cons t rest ih =>
    unfold cutBracket
    split
    · cases depth with
      | zero => exact Nat.le_succ _
      | succ depth => exact Nat.le_succ_of_le (ih depth)
    · exact Nat.le_succ_of_le (ih _)

/-! ## Code of attributes -/

/-- The pieces of code between commas.  Commas in brackets count too, for no argument can hold
brackets. -/
def splitAtCommas (code : List Token) : List (List Token) := code.splitOn (.sign ',')

def endsPath (t : Token) : Bool := t = .sign '=' || isOpening t

/-- The attribute with this code. -/
def Attribute.ofCode (code : List Token) : Attribute :=
  let path := code.takeWhile fun t => !endsPath t
  match code.dropWhile fun t => !endsPath t with
  | [] => { path, form := .word }
  | .sign '=' :: value => { path, form := .value value }
  | _ :: arguments => { path, form := .list (splitAtCommas (cutBracket 0 arguments).1) }

/-- The code of an attribute or an argument with a value. -/
def assignment (path value : List Token) : List Token := path ++ .sign '=' :: value

/-- The code of an attribute with arguments. -/
def application (path : List Token) (arguments : List (List Token)) : List Token :=
  path ++ .sign '(' :: [.sign ','].intercalate arguments ++ [.sign ')']

/-- The attributes that code starts with, and the code behind them.  Documentation is an attribute
too, and says nothing here. -/
def leadingAttributes (code : List Token) : List Attribute × List Token :=
  match code with
  | .documentation :: rest => leadingAttributes rest
  | .sign '#' :: .sign '[' :: rest =>
    have := length_cutBracket_le 0 rest
    let (attributes, behind) := leadingAttributes (cutBracket 0 rest).2
    (.ofCode (cutBracket 0 rest).1 :: attributes, behind)
  | code => ([], code)
termination_by code.length

end Derive
end RecordMapping
