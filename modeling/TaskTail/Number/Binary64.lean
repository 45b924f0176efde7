/-
Binary floating-point numbers of sixty-four bits, as exact values.  A finite number is a sign, a whole mantissa and a
power of two; arithmetic takes the exact result and rounds it once, to the nearest number with fifty-three bits and an
exponent in range, a tie going to the even mantissa.  What rounds to 2 ^ 1024 or more is infinite.
-/
namespace TaskTail.Number

/-- The whole number nearest to `num / den`, a tie going to the even one. -/
def roundHalfEven (num den : Nat) : Nat :=
  let quotient := num / den
  let remainder := num % den
  if 2 * remainder < den then quotient
  else if den < 2 * remainder then quotient + 1
  else quotient + quotient % 2

/-- A magnitude `mantissa * 2 ^ exponent`. -/
structure Dyadic where
  mantissa : Nat
  exponent : Int
  deriving DecidableEq, Repr, Inhabited

namespace Dyadic

def zero : Dyadic := ⟨0, 0⟩

def numerator (x : Dyadic) : Nat :=
  x.mantissa * Nat.pow 2 x.exponent.toNat

def denominator (x : Dyadic) : Nat :=
  Nat.pow 2 (-x.exponent).toNat

/-- Whether the magnitude is at least a whole number. -/
def atLeast (x : Dyadic) (bound : Nat) : Bool :=
  bound * x.denominator ≤ x.numerator

end Dyadic

/-- Whether `2 ^ power` is at most the fraction `num / den`. -/
def powerAtMost (power : Int) (num den : Nat) : Bool :=
  den * Nat.pow 2 power.toNat ≤ num * Nat.pow 2 (-power).toNat

/-- The greatest power of two that is at most a positive fraction. -/
def floorLog2 (num den : Nat) : Int :=
  let guess : Int := (num.log2 : Int) - den.log2
  if powerAtMost guess num den then guess else guess - 1

/-- The bits of a mantissa after the first. -/
def fractionBits : Int := 52

/-- The least exponent of a mantissa. -/
def minExponent : Int := -1074

/-- The greatest exponent of a full mantissa. -/
def maxExponent : Int := 971

/-- The magnitude nearest to the fraction `num / den`; none when that is infinite. -/
def roundRatio? (num den : Nat) : Option Dyadic :=
  if num = 0 then some .zero
  else
    let exponent := max (floorLog2 num den - fractionBits) minExponent
    let mantissa := roundHalfEven (num * Nat.pow 2 (-exponent).toNat) (den * Nat.pow 2 exponent.toNat)
    if maxExponent < exponent || (exponent = maxExponent && Nat.pow 2 53 ≤ mantissa) then none
    else some ⟨mantissa, exponent⟩

inductive Binary64
  | nan
  | infinite (negative : Bool)
  | finite (negative : Bool) (magnitude : Dyadic)
  deriving DecidableEq, Repr, Inhabited

namespace Binary64

/-- The number nearest to a fraction with a sign. -/
def ofRatio (negative : Bool) (num den : Nat) : Binary64 :=
  match roundRatio? num den with
  | some magnitude => .finite negative magnitude
  | none => .infinite negative

/-- The number nearest to the decimal number `mantissa * 10 ^ exponent` with a sign. -/
def ofDecimal (negative : Bool) (mantissa : Nat) (exponent : Int) : Binary64 :=
  ofRatio negative (mantissa * Nat.pow 10 exponent.toNat) (Nat.pow 10 (-exponent).toNat)

/-- The rounded product. -/
def mul : Binary64 → Binary64 → Binary64
  | nan, _ | _, nan => nan
  | infinite s, infinite t => infinite (s != t)
  | infinite s, finite t x | finite t x, infinite s => if x.mantissa = 0 then nan else infinite (s != t)
  | finite s x, finite t y =>
    ofRatio (s != t) (x.numerator * y.numerator) (x.denominator * y.denominator)

/-- The rounded sum of two magnitudes. -/
def addMagnitudes (x y : Dyadic) : Binary64 :=
  ofRatio false (x.numerator * y.denominator + y.numerator * x.denominator) (x.denominator * y.denominator)

def threeHalves : Binary64 := .finite false ⟨3, -1⟩

end Binary64

end TaskTail.Number
