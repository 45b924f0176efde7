/-
Elements: a tag, a length and that many bytes of contents, which may again be elements.  Lengths are written in the
shortest way and fit in two bytes.  Reading takes elements off the front of some bytes.
-/
namespace TaskTail.Identity.Der

/-- Takes something off the front of some bytes, or fails. -/
abbrev Reader := StateT (List UInt8) Option

structure Element where
  tag : UInt8
  contents : List UInt8

def booleanTag : UInt8 := 0x01

def integerTag : UInt8 := 0x02

def bitsTag : UInt8 := 0x03

def bytesTag : UInt8 := 0x04

/-- The tag of a name of something that is known by numbers. -/
def nameTag : UInt8 := 0x06

def sequenceTag : UInt8 := 0x30

/-- The tag of the optional part of the given number, which holds whole elements. -/
def partTag (number : UInt8) : UInt8 := 0xa0 + number

/-- The tag of the optional part of the given number, in the place of the tag of what it holds. -/
def bareTag (number : UInt8) : UInt8 := 0x80 + number

def byte : Reader UInt8
  | [] => none
  | b :: rest => some (b, rest)

def bytes (count : Nat) : Reader (List UInt8) := fun input =>
  if input.length < count then none else some (input.take count, input.drop count)

def length : Reader Nat := do
  let first := (← byte).toNat
  if first < 128 then return first
  else if first = 129 then
    let n := (← byte).toNat
    if n < 128 then failure else return n
  else if first = 130 then
    let high := (← byte).toNat
    let n := high * 256 + (← byte).toNat
    if n < 256 then failure else return n
  else failure

/-- Reads an element; tags of more than one byte are not met here. -/
def element : Reader Element := do
  let tag ← byte
  if tag &&& 0x1f = 0x1f then failure
  return ⟨tag, ← bytes (← length)⟩

def isNext (tag : UInt8) : Reader Bool := fun input =>
  some (input.head? == some tag, input)

def atEnd : Reader Bool := fun input =>
  some (input.isEmpty, input)

/-- What is read from some bytes when nothing may be left of them. -/
def complete {α : Type} (reader : Reader α) (input : List UInt8) : Option α :=
  match reader input with
  | some (value, []) => some value
  | _ => none

/-- Reads the contents of an element of the given tag. -/
def contents (tag : UInt8) : Reader (List UInt8) := do
  let e ← element
  if e.tag = tag then return e.contents else failure

/-- Reads an element of the given tag, whose contents are read by another reader. -/
def within {α : Type} (tag : UInt8) (reader : Reader α) : Reader α := do
  liftM (complete reader (← contents tag))

/-- The elements that make up some bytes, at most `fuel` of them. -/
def elementsUpTo? : (fuel : Nat) → List UInt8 → Option (List Element)
  | _, [] => some []
  | 0, _ :: _ => none
  | fuel + 1, input =>
    match element input with
    | none => none
    | some (e, rest) => (elementsUpTo? fuel rest).map (e :: ·)

/-- The elements that make up some bytes; as each has a tag, there are no more of them than bytes. -/
def elements? (input : List UInt8) : Option (List Element) :=
  elementsUpTo? input.length input

/-- The number that some bytes stand for, the highest first. -/
def toNumber (bytes : List UInt8) : Nat :=
  bytes.foldl (fun n b => n * 256 + b.toNat) 0

/-- Reads a number that is not negative, written in the shortest way. -/
def natural : Reader Nat := do
  let written ← contents integerTag
  match written with
  | [] => failure
  | [b] => if b < 0x80 then return b.toNat else failure
  | b :: c :: rest =>
    if b < 0x80 ∧ (b ≠ 0 ∨ 0x80 ≤ c) then return toNumber (b :: c :: rest) else failure

/-- The bytes of a string of bits that fills them. -/
def wholeBytes? : List UInt8 → Option (List UInt8)
  | 0 :: rest => some rest
  | _ => none

/-- Reads a string of bits that fills whole bytes. -/
def bits : Reader (List UInt8) := do
  liftM (wholeBytes? (← contents bitsTag))

def encodeLength (n : Nat) : List UInt8 :=
  if n < 128 then [UInt8.ofNat n]
  else if n < 256 then [129, UInt8.ofNat n]
  else [130, UInt8.ofNat (n / 256), UInt8.ofNat n]

def encode (tag : UInt8) (contents : List UInt8) : List UInt8 :=
  tag :: (encodeLength contents.length ++ contents)

/-- A number in the given count of bytes, the highest first. -/
def ofNumber (count n : Nat) : List UInt8 :=
  (List.range count).map fun i => UInt8.ofNat (n / Nat.pow 256 (count - 1 - i))

/-- A number as an element; a bit that would look like a sign gets a byte in front. -/
def encodeNatural (n : Nat) : List UInt8 :=
  encode integerTag (ofNumber (n.log2 / 8 + 1 + if n.log2 % 8 = 7 then 1 else 0) n)

/-- A string of bits that fills whole bytes, as an element. -/
def encodeBits (bytes : List UInt8) : List UInt8 :=
  encode bitsTag (0 :: bytes)

end TaskTail.Identity.Der
