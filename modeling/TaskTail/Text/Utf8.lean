/-
UTF-8 bytes that may be damaged, read as text for display or refused at the first damage.  A well-formed sequence
gives its character; every longest start of a sequence that goes on wrongly, and every byte that starts none, is one
damaged part and gives one replacement character.  So nothing is skipped silently and no valid character is lost
beside a damaged one.
-/
namespace TaskTail.Text

/-- The character shown in the place of bytes that are not UTF-8. -/
def replacement : Char := '\ufffd'

/-- How a sequence of several bytes starts: the bits its lead byte gives, how many bytes follow, and the bounds
of the first of them, which keep out overlong forms, surrogates and values past the last character. -/
structure Lead where
  bits : Nat
  count : Nat
  low : UInt8
  high : UInt8

/-- The reading of a byte that starts a sequence of two, three or four bytes. -/
def Lead.ofByte? (b : UInt8) : Option Lead :=
  if b < 0xC2 then none
  else if b < 0xE0 then some ⟨b.toNat % 32, 1, 0x80, 0xBF⟩
  else if b = 0xE0 then some ⟨0, 2, 0xA0, 0xBF⟩
  else if b = 0xED then some ⟨13, 2, 0x80, 0x9F⟩
  else if b < 0xF0 then some ⟨b.toNat % 16, 2, 0x80, 0xBF⟩
  else if b = 0xF0 then some ⟨0, 3, 0x90, 0xBF⟩
  else if b < 0xF4 then some ⟨b.toNat % 8, 3, 0x80, 0xBF⟩
  else if b = 0xF4 then some ⟨4, 3, 0x80, 0x8F⟩
  else none

/-- Reads `count` more bytes onto `value`, the first between `low` and `high` and the others any continuation
byte; a sequence that breaks off gives no value and leaves the byte that broke it. -/
def readContinuation : (count : Nat) → (low high : UInt8) → (value : Nat) → List UInt8 → Option Nat × List UInt8
  | 0, _, _, value, bytes => (some value, bytes)
  | _ + 1, _, _, _, [] => (none, [])
  | count + 1, low, high, value, b :: bytes =>
    if low ≤ b ∧ b ≤ high then
      readContinuation count 0x80 0xBF (value * 64 + b.toNat % 64) bytes
    else (none, b :: bytes)

theorem length_readContinuation_le (count : Nat) (low high : UInt8) (value : Nat) (bytes : List UInt8) :
    (readContinuation count low high value bytes).2.length ≤ bytes.length := by
  induction count generalizing low high value bytes with
  | zero => simp [readContinuation]
  | succ count ih =>
    cases bytes with
    | nil => simp [readContinuation]
    | cons b bytes =>
      unfold readContinuation
      split
      · exact Nat.le_succ_of_le (ih _ _ _ bytes)
      · exact Nat.le_refl _

/-- The characters of a byte sequence, with one replacement character for each damaged part. -/
def decodeChars : List UInt8 → List Char
  | [] => []
  | b :: bytes =>
    if b < 0x80 then Char.ofNat b.toNat :: decodeChars bytes
    else
      match Lead.ofByte? b with
      | none => replacement :: decodeChars bytes
      | some lead =>
        let read := readContinuation lead.count lead.low lead.high lead.bits bytes
        read.1.elim replacement Char.ofNat :: decodeChars read.2
termination_by bytes => bytes.length
decreasing_by
  · simp
  · simp
  · exact Nat.lt_succ_of_le (length_readContinuation_le _ _ _ _ bytes)

def decodeLossy (bytes : List UInt8) : String :=
  String.ofList (decodeChars bytes)

/-- The first damaged part of some bytes. -/
inductive Utf8Fault
  /-- So many bytes from a place on that are no start of a character that goes on. -/
  | invalid (count index : Nat)
  /-- The bytes end within a character. -/
  | incomplete (index : Nat)
  deriving DecidableEq, Repr

def Utf8Fault.message : Utf8Fault → String
  | invalid count index =>
    "invalid utf-8 sequence of " ++ toString count ++ " bytes from index " ++ toString index
  | incomplete index => "incomplete utf-8 byte sequence from index " ++ toString index

/-- The first damaged part of bytes of which the first is at the given place. -/
def firstFault? (index : Nat) : List UInt8 → Option Utf8Fault
  | [] => none
  | b :: bytes =>
    if b < 0x80 then firstFault? (index + 1) bytes
    else
      match Lead.ofByte? b with
      | none => some (.invalid 1 index)
      | some lead =>
        let read := readContinuation lead.count lead.low lead.high lead.bits bytes
        let taken := 1 + (bytes.length - read.2.length)
        if read.1.isSome then firstFault? (index + taken) read.2
        else if read.2.isEmpty then some (.incomplete index)
        else some (.invalid taken index)
termination_by bytes => bytes.length
decreasing_by
  · simp
  · exact Nat.lt_succ_of_le (length_readContinuation_le _ _ _ _ bytes)

/-- The text of a byte sequence without damage. -/
def decode (bytes : List UInt8) : Except Utf8Fault String :=
  match firstFault? 0 bytes with
  | none => .ok (decodeLossy bytes)
  | some fault => .error fault

end TaskTail.Text
