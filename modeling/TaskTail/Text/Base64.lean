/-
Base64: four characters for every three bytes.  Blanks count for nothing.  The last group may be cut short, with or
without the padding that fills it up; padding stands nowhere else.
-/
namespace TaskTail.Text.Base64

/-- Whether a byte counts for nothing. -/
def isBlank (b : UInt8) : Bool :=
  b = 0x20 || (0x09 ≤ b && b ≤ 0x0d)

/-- The six bits that a byte stands for, `some none` for padding. -/
def digit? (b : UInt8) : Option (Option Nat) :=
  if 0x41 ≤ b ∧ b ≤ 0x5a then some (some (b.toNat - 0x41))
  else if 0x61 ≤ b ∧ b ≤ 0x7a then some (some (b.toNat - 0x61 + 26))
  else if 0x30 ≤ b ∧ b ≤ 0x39 then some (some (b.toNat - 0x30 + 52))
  else if b = 0x2b then some (some 62)
  else if b = 0x2f then some (some 63)
  else if b = 0x3d then some none
  else none

def first (a b : Nat) : UInt8 := UInt8.ofNat (a * 4 + b / 16)

def second (b c : Nat) : UInt8 := UInt8.ofNat (b % 16 * 16 + c / 4)

def third (c d : Nat) : UInt8 := UInt8.ofNat (c % 4 * 64 + d)

/-- Reads groups after bytes already read, which come last first. -/
def readGroups? (done : List UInt8) : List (Option Nat) → Option (List UInt8)
  | [] => some done.reverse
  | [some a, some b] | [some a, some b, none, none] => some (first a b :: done).reverse
  | [some a, some b, some c] | [some a, some b, some c, none] => some (second b c :: first a b :: done).reverse
  | some a :: some b :: some c :: some d :: rest => readGroups? (third c d :: second b c :: first a b :: done) rest
  | _ => none

def decode? (text : List UInt8) : Option (List UInt8) := do
  readGroups? [] (← (text.filter fun b => !isBlank b).mapM digit?)

end TaskTail.Text.Base64
