/-!
Numbers with a fixed count of decimal places.
-/

namespace RecordMapping
namespace Number

/-- The quotient to the nearest whole number.  A half goes to the even neighbour. -/
def roundDiv (num den : Nat) : Nat :=
  let q := num / den
  let twice := 2 * (num % den)
  if twice < den then q
  else if den < twice then q + 1
  else q + q % 2

/-- A fraction as a numerator and a denominator. -/
structure Fraction where
  num : Nat
  den : Nat
deriving DecidableEq, Repr

/-- The exact size of a finite double: 52 bits below a leading one, which the smallest exponent lacks,
times a power of two. -/
def magnitude (x : Float) : Fraction :=
  let bits := x.toBits.toNat
  let exponent := bits / Nat.pow 2 52 % Nat.pow 2 11
  let tail := bits % Nat.pow 2 52
  let mantissa := if exponent = 0 then tail else Nat.pow 2 52 + tail
  let shift := max exponent 1
  if 1075 ≤ shift then ⟨mantissa * Nat.pow 2 (shift - 1075), 1⟩
  else ⟨mantissa, Nat.pow 2 (1075 - shift)⟩

/-- A fraction with the given count of decimal places. -/
def Fraction.fixed (f : Fraction) (places : Nat) : String :=
  let scale := Nat.pow 10 places
  let units := roundDiv (f.num * scale) f.den
  let digits := Nat.toDigits 10 (units % scale)
  toString (units / scale) ++ "." ++
    String.ofList (List.replicate (places - digits.length) '0' ++ digits)

/-- The 16 hexadecimal digits of a double. -/
def hexBits (x : Float) : String :=
  let digits := Nat.toDigits 16 x.toBits.toNat
  String.ofList (List.replicate (16 - digits.length) '0' ++ digits)

end Number
end RecordMapping
