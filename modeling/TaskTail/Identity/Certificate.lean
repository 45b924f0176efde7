/-
Certificates, as far as they say whose key they are for.  Only the third version is read.  A remark that has to be
understood must be one of those known here, and each of these may be made once.
-/
import TaskTail.Identity.Der
namespace TaskTail.Identity

open Der

/-- A remark of a certificate. -/
structure Extension where
  name : List UInt8
  critical : Bool
  value : List UInt8

namespace Extension

/-- Reads whether a remark has to be understood. -/
def readCritical : Reader Bool := do
  if ← isNext booleanTag then
    match ← contents booleanTag with
    | [0xff] => return true
    | [0x00] => return false
    | _ => failure
  else return false

def reader : Reader Extension :=
  return ⟨← contents nameTag, ← readCritical, ← contents bytesTag⟩

/-- The number of the remark on what the key may be used for. -/
def keyUsage : UInt8 := 15

/-- The numbers of the remarks that are known: on the use of the key, other names, basic limits, limits on names,
where withdrawn certificates are listed, and further uses. -/
def knownNumbers : List UInt8 := [keyUsage, 17, 19, 30, 31, 37]

/-- The number of a remark that is known. -/
def number? (e : Extension) : Option UInt8 :=
  match e.name with
  | [0x55, 0x1d, n] => if knownNumbers.contains n then some n else none
  | _ => none

/-- Whether a remark can be accepted: a known one has to be well-formed, any other must not matter. -/
def isAcceptable (e : Extension) : Bool :=
  match e.number? with
  | none => !e.critical
  | some n => n = keyUsage || (complete (contents sequenceTag) e.value).isSome

def ofBytes? (input : List UInt8) : Option (List Extension) := do
  (← elements? input).mapM fun e => if e.tag = sequenceTag then complete reader e.contents else none

def allAcceptable (es : List Extension) : Bool :=
  let numbers := es.filterMap number?
  es.all isAcceptable && numbers.all fun n => numbers.count n = 1

end Extension

namespace Certificate

/-- Reads what is certified, signed in a way that is named beside it, and gives the key. -/
def readStatement (algorithm : List UInt8) : Reader (List UInt8) := do
  let version ← within (partTag 0) natural
  let _ ← contents integerTag
  let signedBy ← contents sequenceTag
  if version ≠ 2 ∨ signedBy ≠ algorithm then failure
  let _ ← contents sequenceTag
  let _ ← contents sequenceTag
  let _ ← contents sequenceTag
  let key ← contents sequenceTag
  if ← atEnd then return key
  let remarks ← liftM (Extension.ofBytes? (← within (partTag 3) (contents sequenceTag)))
  if Extension.allAcceptable remarks then return key else failure

/-- Reads a certificate and gives the key that it is for. -/
def reader : Reader (List UInt8) := within sequenceTag do
  let statement ← contents sequenceTag
  let algorithm ← contents sequenceTag
  let _ ← bits
  liftM (complete (readStatement algorithm) statement)

/-- The public key that a certificate is for, together with the name of its kind. -/
def publicKey? (certificate : List UInt8) : Option (List UInt8) :=
  complete reader certificate

end Certificate

end TaskTail.Identity
