/-!
Decimal numerals and the numbers that they stand for.

A numeral with neither a fraction nor an exponent stands for a whole number if that fits 64 bits.
Any other stands for a double.
-/

namespace RecordMapping
namespace Number

/-- A numeral as it is written, its digits as numbers below ten. -/
structure Numeral where
  negative : Bool := false
  whole : List Nat
  fraction : List Nat := []
  exponent? : Option Int := none
deriving DecidableEq, Repr

namespace Numeral

def value (digits : List Nat) : Nat := digits.foldl (fun n d => 10 * n + d) 0

def ofNat (n : Nat) : Numeral := { whole := (Nat.toDigits 10 n).map fun c => c.toNat - '0'.toNat }

def ofInt (i : Int) : Numeral := { ofNat i.natAbs with negative := i < 0 }

/-- The whole number, from `-2 ^ 63` up to `2 ^ 64 - 1`.  Minus zero is no whole number. -/
def integer? (n : Numeral) : Option Int :=
  let v := value n.whole
  if !n.fraction.isEmpty || n.exponent?.isSome then none
  else if n.negative then
    if 0 < v && v ≤ Nat.pow 2 63 then some (-v) else none
  else if v < Nat.pow 2 64 then some v else none

/-- The digits up to the first one with which the number would exceed 64 bits, and the digits from
there on. -/
def leading (v : Nat) : List Nat → Nat × List Nat
  | [] => (v, [])
  | d :: rest => if 10 * v + d < Nat.pow 2 64 then leading (10 * v + d) rest else (v, d :: rest)

/-- A double times a power of ten, one division for every 308 places to the right.  A double that
outgrows the format has no image. -/
def scale? (x : Float) (exponent : Int) : Option Float :=
  if x == 0 then some x
  else if 308 < exponent then none
  else if 0 ≤ exponent then
    let y := x * Float.ofScientific 1 false exponent.toNat
    if y.isInf then none else some y
  else if -308 ≤ exponent then some (x / Float.ofScientific 1 false exponent.natAbs)
  else scale? (x / Float.ofScientific 1 false 308) (exponent + 308)
termination_by exponent.natAbs
decreasing_by omega

/-- The double of the digits that fit 64 bits, scaled.  Digits of the whole part that do not fit
count as zeros, those of the fraction not at all. -/
def double? (n : Numeral) : Option Float :=
  let (v, dropped) := leading 0 n.whole
  let (v, rest) := leading v n.fraction
  let places : Int := n.fraction.length - rest.length
  (scale? v.toUInt64.toFloat (n.exponent?.getD 0 + dropped.length - places)).map
    fun x => if n.negative then -x else x

def chars (n : Numeral) : List Char :=
  let digit (d : Nat) : Char := Char.ofNat ('0'.toNat + d)
  (if n.negative then ['-'] else []) ++ n.whole.map digit ++
    (if n.fraction.isEmpty then [] else '.' :: n.fraction.map digit) ++
    match n.exponent? with
    | none => []
    | some e => 'e' :: (toString e).toList

end Numeral
end Number
end RecordMapping
