/-
Variable-length numbers come back.  Whatever follows it, a spelling of a number of at most sixty-four bits
is read as that number, and what follows is left as it was; nothing else is read as a number.  The spelling
that is written takes as many bytes as the number has groups of seven bits.
-/
import Mathlib.Algebra.Group.Nat.Defs
import Mathlib.Tactic.Common
import TaskTail.Wire.Varint

namespace TaskTail.Wire.Varint

theorem encode_of_lt {n : Nat} (hn : n < 128) : encode n = [UInt8.ofNat n] := by
  rw [encode, if_pos hn]

theorem ofNat_lt_iff {n : Nat} (hn : n < 256) (bound : UInt8) :
    UInt8.ofNat n < bound ↔ n < bound.toNat := by
  rw [UInt8.lt_iff_toNat_lt, UInt8.toNat_ofNat_of_lt' hn]

/-- Seven bits to a byte, the lowest first, and every byte but the last is marked. -/
inductive Digits : List UInt8 → Nat → Prop
  | last {b : UInt8} : b < 128 → Digits [b] b.toNat
  | more {b : UInt8} {bytes : List UInt8} {n : Nat} :
      ¬ b < 128 → Digits bytes n → Digits (b :: bytes) (b.toNat - 128 + 128 * n)

/-- The bytes spell a number of at most sixty-four bits; the spelling need not be the shortest. -/
structure Spells (bytes : List UInt8) (n : Nat) : Prop where
  digits : Digits bytes n
  length_le : bytes.length ≤ 10
  lt : n < UInt64.size

theorem Digits.ne_nil {bytes : List UInt8} {n : Nat} (hdigits : Digits bytes n) : bytes ≠ [] := by
  cases hdigits <;> simp

/-- Room for `limit` marked bytes and one more bit is enough for a number of that many digits. -/
theorem Digits.decodeWithin_append {bytes : List UInt8} {n : Nat} (hdigits : Digits bytes n)
    {limit : Nat} (hlength : bytes.length ≤ limit + 1) (hn : n < 2 * 128 ^ limit)
    (rest : List UInt8) : decodeWithin (limit + 1) (bytes ++ rest) = some (n, rest) := by
  induction hdigits generalizing limit with
  | @last b hb =>
      rcases limit with _ | limit
      · have hbit : b < 2 := by rw [UInt8.lt_iff_toNat_lt]; simpa using hn
        simp [decodeWithin, hbit]
      · simp [decodeWithin, hb]
  | @more b bytes n hb hrest ih =>
      rcases limit with _ | limit
      · exact absurd (List.length_eq_zero_iff.mp (by simpa using hlength)) hrest.ne_nil
      · have hlow : 128 * n < 128 * (2 * 128 ^ limit) := by
          rw [Nat.pow_succ] at hn
          omega
        rw [List.cons_append, decodeWithin, if_neg hb,
          ih (by simpa using hlength) (Nat.lt_of_mul_lt_mul_left hlow), Option.map_some]

theorem decode?_of_spells {bytes : List UInt8} {n : Nat} (hspells : Spells bytes n)
    (rest : List UInt8) : decode? (bytes ++ rest) = some (n, rest) :=
  hspells.digits.decodeWithin_append hspells.length_le hspells.lt rest

theorem exists_digits_of_decodeWithin {limit : Nat} {bytes rest : List UInt8} {n : Nat}
    (hread : decodeWithin (limit + 1) bytes = some (n, rest)) :
    ∃ used, bytes = used ++ rest ∧ Digits used n ∧ used.length ≤ limit + 1 ∧
      n < 2 * 128 ^ limit := by
  induction limit generalizing bytes n with
  | zero =>
      rcases bytes with _ | ⟨b, bytes⟩
      · simp [decodeWithin] at hread
      · simp only [decodeWithin, Option.ite_none_right_eq_some, Option.some.injEq,
          Prod.mk.injEq] at hread
        obtain ⟨hbit, rfl, rfl⟩ := hread
        rw [UInt8.lt_iff_toNat_lt] at hbit
        have hb : b < 128 := UInt8.lt_iff_toNat_lt.mpr (Nat.lt_trans hbit (by decide))
        exact ⟨[b], rfl, .last hb, Nat.le_refl _, hbit⟩
  | succ limit ih =>
      rcases bytes with _ | ⟨b, bytes⟩
      · simp [decodeWithin] at hread
      · have hbound := b.toNat_lt
        have hpow : 0 < 128 ^ limit := Nat.pow_pos (by decide)
        rw [decodeWithin] at hread
        split at hread
        · rename_i hb
          cases hread
          rw [UInt8.lt_iff_toNat_lt] at hb
          refine ⟨[b], rfl, .last (UInt8.lt_iff_toNat_lt.mpr hb), by simp, ?_⟩
          rw [Nat.pow_succ]
          have : b.toNat < 128 := hb
          omega
        · rename_i hb
          obtain ⟨⟨m, after⟩, hm, heq⟩ := Option.map_eq_some_iff.mp hread
          cases heq
          obtain ⟨used, rfl, hused, hlength, hlt⟩ := ih hm
          refine ⟨b :: used, rfl, .more hb hused, Nat.succ_le_succ hlength, ?_⟩
          rw [Nat.pow_succ]
          omega

/-- What is read as a number is a spelling of it. -/
theorem exists_spells_of_decode? {bytes rest : List UInt8} {n : Nat}
    (hread : decode? bytes = some (n, rest)) : ∃ used, bytes = used ++ rest ∧ Spells used n := by
  have hwithin : decodeWithin (9 + 1) bytes = some (n, rest) := hread
  obtain ⟨used, heq, hdigits, hlength, hlt⟩ := exists_digits_of_decodeWithin hwithin
  exact ⟨used, heq, hdigits, hlength, hlt⟩

theorem length_pos (n : Nat) : 0 < length n := by
  rw [length]
  split <;> omega

/-- Each byte of a spelling has room for seven bits. -/
theorem length_le_iff (n count : Nat) : length n ≤ count + 1 ↔ n < 128 ^ (count + 1) := by
  induction count generalizing n with
  | zero =>
      have hpos := length_pos (n / 128)
      rw [length]
      split <;> omega
  | succ count ih =>
      have hpow : 0 < 128 ^ (count + 1) := Nat.pow_pos (by decide)
      rw [length, Nat.pow_succ]
      split
      · omega
      · rw [Nat.add_le_add_iff_right, ih]
        omega

theorem digits_encode (n : Nat) : Digits (encode n) n := by
  fun_induction encode n with
  | case1 n hsmall =>
      have hvalue : (UInt8.ofNat n).toNat = n :=
        UInt8.toNat_ofNat_of_lt' (Nat.lt_trans hsmall (by decide))
      have hbyte : UInt8.ofNat n < 128 :=
        (ofNat_lt_iff (Nat.lt_trans hsmall (by decide)) 128).mpr hsmall
      have hdigits := Digits.last hbyte
      rwa [hvalue] at hdigits
  | case2 n hlarge ih =>
      have hmark : n % 128 + 128 < 256 := by omega
      have hbyte : ¬ UInt8.ofNat (n % 128 + 128) < 128 := by
        rw [ofNat_lt_iff hmark]
        exact Nat.not_lt.mpr (Nat.le_add_left 128 _)
      have hvalue : (UInt8.ofNat (n % 128 + 128)).toNat - 128 + 128 * (n / 128) = n := by
        rw [UInt8.toNat_ofNat_of_lt' hmark]
        omega
      have hdigits := Digits.more hbyte ih
      rwa [hvalue] at hdigits

/-- What is written of a number of at most sixty-four bits is a spelling of it. -/
theorem spells_encode {n : Nat} (hn : n < UInt64.size) : Spells (encode n) n := by
  have hlength : length n ≤ 9 + 1 := (length_le_iff n 9).mpr (Nat.lt_trans hn (by decide))
  rw [← length_encode] at hlength
  exact ⟨digits_encode n, hlength, hn⟩

end TaskTail.Wire.Varint
