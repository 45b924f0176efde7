/-
Keys of RSA.  A private key names its two primes and what follows from them; it is accepted when these numbers go
together and are of a usual size.
-/
import TaskTail.Identity.Der
namespace TaskTail.Identity

open Der

structure RsaKey where
  modulus : Nat
  publicExponent : Nat
  privateExponent : Nat
  p : Nat
  q : Nat
  /-- The private exponent by the first prime less one. -/
  exponentP : Nat
  /-- The private exponent by the second prime less one. -/
  exponentQ : Nat
  /-- The inverse of the second prime by the first. -/
  coefficient : Nat

namespace RsaKey

def reader : Reader RsaKey := within sequenceTag do
  if (← natural) ≠ 0 then failure
  return ⟨← natural, ← natural, ← natural, ← natural, ← natural, ← natural, ← natural, ← natural⟩

def bitLength (n : Nat) : Nat :=
  if n = 0 then 0 else n.log2 + 1

def isOdd (n : Nat) : Bool := n % 2 = 1

/-- Whether a public key can be used: 256 to 512 bytes, and an odd exponent from 65537 up to 33 bits. -/
def isUsable (k : RsaKey) : Bool :=
  isOdd k.modulus && 2041 ≤ bitLength k.modulus && bitLength k.modulus ≤ 4096 &&
    isOdd k.publicExponent && 65537 ≤ k.publicExponent && bitLength k.publicExponent ≤ 33

/-- Whether a prime has half the bits of the modulus, in whole units of 512, and an odd exponent below it. -/
def hasPrime (k : RsaKey) (prime exponent : Nat) : Bool :=
  isOdd prime && bitLength prime = (bitLength k.modulus + 1) / 2 && bitLength prime % 512 = 0 &&
    isOdd exponent && exponent < prime

/-- Whether the numbers of a key go together. -/
def isConsistent (k : RsaKey) : Bool :=
  k.isUsable && k.hasPrime k.p k.exponentP && k.hasPrime k.q k.exponentQ && k.p * k.q % k.modulus = 0 &&
    isOdd k.privateExponent && k.privateExponent < k.modulus &&
    (bitLength k.modulus + 1) / 2 < bitLength k.privateExponent &&
    k.coefficient < k.p && k.coefficient * k.q % k.p = 1

/-- The public key in written form. -/
def publicKey (k : RsaKey) : List UInt8 :=
  encode sequenceTag (encodeNatural k.modulus ++ encodeNatural k.publicExponent)

end RsaKey

end TaskTail.Identity
