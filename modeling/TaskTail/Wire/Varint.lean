/-
Variable-length numbers: seven bits to a byte, the lowest first, with the high bit set on every byte but the last.
A number on the wire has at most sixty-four bits, so at most ten bytes; longer spellings of a small number are read
as well, as long as they stay within ten bytes.
-/
namespace TaskTail.Wire.Varint

/-- The shortest spelling of a number. -/
def encode (n : Nat) : List UInt8 :=
  if n < 128 then [UInt8.ofNat n] else UInt8.ofNat (n % 128 + 128) :: encode (n / 128)
termination_by n

def length (n : Nat) : Nat :=
  if n < 128 then 1 else length (n / 128) + 1
termination_by n

/-- Reads a number of at most `limit` bytes, of which the last may only hold the sixty-fourth bit. -/
def decodeWithin : (limit : Nat) → List UInt8 → Option (Nat × List UInt8)
  | 0, _ => none
  | _, [] => none
  | 1, b :: rest => if b < 2 then some (b.toNat, rest) else none
  | limit + 2, b :: rest =>
    if b < 128 then some (b.toNat, rest)
    else (decodeWithin (limit + 1) rest).map fun read => (b.toNat - 128 + 128 * read.1, read.2)

/-- The number at the front, and the bytes after it; none when the bytes end too early or go on too long. -/
def decode? (bytes : List UInt8) : Option (Nat × List UInt8) :=
  decodeWithin 10 bytes

theorem length_encode (n : Nat) : (encode n).length = length n := by
  induction n using Nat.strongRecOn with
  | ind n ih =>
    rw [encode, length]
    split
    · rfl
    · simp [ih (n / 128) (by omega)]

theorem decodeWithin_shortens {limit : Nat} {bytes : List UInt8} {read : Nat × List UInt8}
    (h : decodeWithin limit bytes = some read) : read.2.length < bytes.length := by
  fun_induction decodeWithin limit bytes generalizing read with
  | case1 => cases h
  | case2 => cases h
  | case3 b rest hb => cases h; simp
  | case4 => cases h
  | case5 limit b rest hb => cases h; simp
  | case6 limit b rest hb ih =>
    obtain ⟨inner, hinner, rfl⟩ := Option.map_eq_some_iff.1 h
    have := ih hinner
    exact Nat.lt_succ_of_lt this

/-- Reading a number takes at least one byte. -/
theorem decode?_shortens {bytes : List UInt8} {read : Nat × List UInt8} (h : decode? bytes = some read) :
    read.2.length < bytes.length :=
  decodeWithin_shortens h

end TaskTail.Wire.Varint
