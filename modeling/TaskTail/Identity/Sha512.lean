/-
A digest of sixty-four bytes.  A message is filled up to whole blocks; each block is mixed into eight words by eighty
rounds, whose constants are the first bits after the point of the roots of primes.
-/
import TaskTail.Identity.Der
namespace TaskTail.Identity.Sha512

/-- The primes below 410, of which there are eighty. -/
def primes : List Nat :=
  (List.range 410).filter fun n => decide (2 ≤ n) && (List.range n).all fun d => decide (d < 2) || n % d != 0

/-- The greatest number below `2 ^ 72` on which an increasing function is at most `n`. -/
def greatest (f : Nat → Nat) (n : Nat) : Nat :=
  (List.range 72).foldl (fun found i =>
    let next := found + Nat.pow 2 (71 - i)
    if f next ≤ n then next else found) 0

/-- The words that are mixed into. -/
structure Words where
  a : UInt64
  b : UInt64
  c : UInt64
  d : UInt64
  e : UInt64
  f : UInt64
  g : UInt64
  h : UInt64

/-- The words whose values a function gives for the first eight numbers. -/
def Words.ofFn (f : Nat → UInt64) : Words :=
  ⟨f 0, f 1, f 2, f 3, f 4, f 5, f 6, f 7⟩

def Words.toList (s : Words) : List UInt64 :=
  [s.a, s.b, s.c, s.d, s.e, s.f, s.g, s.h]

/-- The words added one by one. -/
def Words.add (s t : Words) : Words :=
  ⟨s.a + t.a, s.b + t.b, s.c + t.c, s.d + t.d, s.e + t.e, s.f + t.f, s.g + t.g, s.h + t.h⟩

/-- The words at the start: bits of the square roots of the first eight primes. -/
def start : Words :=
  .ofFn fun i => UInt64.ofNat (greatest (fun r => r * r) (primes.getD i 0 * Nat.pow 2 128))

/-- The constants of the rounds: bits of the cube roots of the first eighty primes. -/
def roundConstants : List UInt64 :=
  primes.map fun n => UInt64.ofNat (greatest (fun r => r * r * r) (n * Nat.pow 2 192))

/-- A word turned to the right. -/
def turn (w count : UInt64) : UInt64 :=
  (w >>> count) ||| (w <<< (64 - count))

/-- The words after a round with the given constant and the given word of the block. -/
def round (s : Words) (constant word : UInt64) : Words :=
  let choice := (s.e &&& s.f) ^^^ (~~~ s.e &&& s.g)
  let majority := (s.a &&& s.b) ^^^ (s.a &&& s.c) ^^^ (s.b &&& s.c)
  let first := s.h + (turn s.e 14 ^^^ turn s.e 18 ^^^ turn s.e 41) + choice + constant + word
  let second := (turn s.a 28 ^^^ turn s.a 34 ^^^ turn s.a 39) + majority
  ⟨first + second, s.a, s.b, s.c, s.d + first, s.e, s.f, s.g⟩

/-- The words of the rounds: those of the block, and after them each from four before it. -/
def schedule (block : Array UInt64) : Array UInt64 :=
  (List.range 64).foldl (fun words i =>
    let near := words.getD (i + 14) 0
    let far := words.getD (i + 1) 0
    words.push (words.getD i 0 + (turn far 1 ^^^ turn far 8 ^^^ (far >>> 7)) + words.getD (i + 9) 0 +
      (turn near 19 ^^^ turn near 61 ^^^ (near >>> 6)))) block

/-- The words after a block. -/
def mix (s : Words) (block : Array UInt64) : Words :=
  s.add ((roundConstants.zip (schedule block).toList).foldl (fun s r => round s r.1 r.2) s)

/-- A message filled up to whole blocks of 128 bytes: a set bit, clear ones, and the length in bits. -/
def fill (message : List UInt8) : List UInt8 :=
  message ++ 0x80 :: (List.replicate ((239 - message.length % 128) % 128) 0 ++ Der.ofNumber 16 (8 * message.length))

def wordAt (bytes : List UInt8) (place : Nat) : UInt64 :=
  UInt64.ofNat (Der.toNumber ((bytes.drop (8 * place)).take 8))

def blocks (message : List UInt8) : List (Array UInt64) :=
  let filled := fill message
  (List.range (filled.length / 128)).map fun i => ((List.range 16).map fun j => wordAt filled (16 * i + j)).toArray

def digest (message : List UInt8) : List UInt8 :=
  ((blocks message).foldl mix start).toList.flatMap fun w => Der.ofNumber 8 w.toNat

end TaskTail.Identity.Sha512
