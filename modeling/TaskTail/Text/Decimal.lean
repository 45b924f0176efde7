/-
Unsigned decimal numbers as people type them: one or more ASCII digits, after an optional plus sign.  Leading
zeros are allowed; blanks, other signs, separators and a number past the given bound are refused.
-/
namespace TaskTail.Text

/-- The value of a run of ASCII digits, read from the left; `none` when another character occurs. -/
def digitsValue? (value : Nat) : List Char → Option Nat
  | [] => some value
  | c :: cs => if c.isDigit then digitsValue? (value * 10 + (c.toNat - '0'.toNat)) cs else none

def decimal? : List Char → Option Nat
  | [] => none
  | '+' :: cs => if cs.isEmpty then none else digitsValue? 0 cs
  | c :: cs => digitsValue? 0 (c :: cs)

/-- The number that a text spells, if it spells one of at most `bound`. -/
def decimalUpTo? (bound : Nat) (s : String) : Option Nat :=
  (decimal? s.toList).filter (· ≤ bound)

end TaskTail.Text
