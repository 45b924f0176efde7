/-
Bytes in a header.  A byte that may not stand in a header, or would be misread there, is written as a percent sign and
two hexadecimal digits.  The percent sign itself is left as it is, so bytes that hold one followed by two such digits
are read back as others.
-/
namespace TaskTail.Text.Percent

/-- Whether a byte is written with digits: controls, blanks, all that is not ASCII, and some marks. -/
def isEscaped (b : UInt8) : Bool :=
  b ≤ 0x20 || 0x7f ≤ b || [0x22, 0x23, 0x3c, 0x3e, 0x3f, 0x60, 0x7b, 0x7d].contains b

def digit (n : Nat) : UInt8 :=
  UInt8.ofNat (if n < 10 then 0x30 + n else 0x37 + n)

/-- The number of a digit, in either case. -/
def value? (b : UInt8) : Option Nat :=
  if 0x30 ≤ b ∧ b ≤ 0x39 then some (b.toNat - 0x30)
  else if 0x41 ≤ b ∧ b ≤ 0x46 then some (b.toNat - 0x37)
  else if 0x61 ≤ b ∧ b ≤ 0x66 then some (b.toNat - 0x57)
  else none

/-- The percent sign. -/
def sign : UInt8 := 0x25

def encodeByte (b : UInt8) : List UInt8 :=
  if isEscaped b then [sign, digit (b.toNat / 16), digit (b.toNat % 16)] else [b]

def encode (bytes : List UInt8) : List UInt8 :=
  bytes.flatMap encodeByte

/-- The byte that two digits stand for. -/
def byte? (high low : UInt8) : Option UInt8 :=
  match value? high, value? low with
  | some h, some l => some (UInt8.ofNat (16 * h + l))
  | _, _ => none

/-- Reads bytes after bytes already read, which come last first. -/
def readOn (done : List UInt8) : List UInt8 → List UInt8
  | a :: high :: low :: rest =>
    match if a = sign then byte? high low else none with
    | some b => readOn (b :: done) rest
    | none => readOn (a :: done) (high :: low :: rest)
  | rest => done.reverse ++ rest

/-- The bytes of a written form; a sign that two digits do not follow stands for itself. -/
def decode (bytes : List UInt8) : List UInt8 :=
  readOn [] bytes

end TaskTail.Text.Percent
