/-
Powers of numbers, of which only the remainder by some modulus is kept.
-/
namespace TaskTail.Number

/-- The bits of a number, the highest of the given count first. -/
def bitsOf (count n : Nat) : List Bool :=
  (List.range count).map fun i => n.testBit (count - 1 - i)

/-- The remainder of a power, by squaring once for each bit of the exponent. -/
def powerModulo (base : Int) (exponent : Nat) (modulus : Int) : Int :=
  (bitsOf (exponent.log2 + 1) exponent).foldl (fun done bit =>
    let square := done * done % modulus
    if bit then square * base % modulus else square) 1

/-- The number whose product with another leaves one, for a modulus that is prime: all numbers but zero have one. -/
def inverseModulo (n : Int) (prime : Nat) : Int :=
  powerModulo n (prime - 2) prime

end TaskTail.Number
