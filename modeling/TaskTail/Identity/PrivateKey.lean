/-
Private keys and their public keys.  A key is of RSA, of one of two elliptic curves, or of an Edwards curve; a public
key that is written beside it has to be its own.
-/
import TaskTail.Identity.Curve
import TaskTail.Identity.Edwards
import TaskTail.Identity.Pem
import TaskTail.Identity.Rsa
namespace TaskTail.Identity

open Der

/-- A public key together with the name of its kind, in written form. -/
def publicKeyInfo (algorithm key : List UInt8) : List UInt8 :=
  encode sequenceTag algorithm ++ encodeBits key

/-- The name of keys of RSA. -/
def rsaAlgorithm : List UInt8 :=
  [0x06, 0x09, 0x2a, 0x86, 0x48, 0x86, 0xf7, 0x0d, 0x01, 0x01, 0x01, 0x05, 0x00]

def Curve.algorithm (c : Curve) : List UInt8 :=
  [0x06, 0x07, 0x2a, 0x86, 0x48, 0xce, 0x3d, 0x02, 0x01] ++ c.name

def edwardsAlgorithm : List UInt8 := [0x06, 0x03, 0x2b, 0x65, 0x70]

def rsaPublicKey? (key : List UInt8) : Option (List UInt8) :=
  match complete RsaKey.reader key with
  | some k => if k.isConsistent then some (publicKeyInfo rsaAlgorithm k.publicKey) else none
  | none => none

/-- A private key of an elliptic curve as it is written. -/
structure CurveKey where
  steps : List UInt8
  /-- The name of the curve. -/
  curve : Option (List UInt8)
  publicKey : List UInt8

/-- Reads a private key of an elliptic curve, which has to have its public key beside it. -/
def CurveKey.reader : Reader CurveKey := within sequenceTag do
  if (← natural) ≠ 1 then failure
  let steps ← contents bytesTag
  let curve ← if ← isNext (partTag 0) then some <$> contents (partTag 0) else pure none
  return ⟨steps, curve, ← within (partTag 1) bits⟩

/-- Whether a key is one of the given curve. -/
def CurveKey.isOn (k : CurveKey) (c : Curve) : Bool :=
  k.steps.length = c.width && toNumber k.steps != 0 && toNumber k.steps < c.order &&
    (k.curve.getD c.name) = c.name && k.publicKey = c.publicKey (toNumber k.steps)

/-- The public key of a private key of one of the given curves. -/
def curvePublicKey? (curves : List Curve) (key : List UInt8) : Option (List UInt8) :=
  match complete CurveKey.reader key with
  | some k => (curves.find? k.isOn).map fun c => publicKeyInfo c.algorithm k.publicKey
  | none => none

/-- The public key of a seed, if it is one and any public key written beside it is its own. -/
def edwardsPublicKey? (key : List UInt8) (written : Option (List UInt8)) : Option (List UInt8) :=
  match complete (contents bytesTag) key with
  | some seed =>
    if seed.length = 32 ∧ written.getD (Edwards.publicKey seed) = Edwards.publicKey seed then
      some (publicKeyInfo edwardsAlgorithm (Edwards.publicKey seed))
    else none
  | none => none

/-- A private key with the name of its kind. -/
structure NamedKey where
  algorithm : List UInt8
  key : List UInt8
  publicKey : Option (List UInt8)

/-- Reads a public key that is written as the part of number one. -/
def NamedKey.readPublicKey : Reader (List UInt8) := do
  if ← isNext (partTag 1) then within (partTag 1) bits
  else liftM (wholeBytes? (← contents (bareTag 1)))

/-- Reads a private key with the name of its kind; the public key is there from the second version on. -/
def NamedKey.reader : Reader NamedKey := within sequenceTag do
  let version ← natural
  let algorithm ← contents sequenceTag
  let key ← contents bytesTag
  if ← isNext (partTag 0) then let _ ← contents (partTag 0)
  if version = 0 then return ⟨algorithm, key, none⟩
  else if version = 1 then return ⟨algorithm, key, some (← NamedKey.readPublicKey)⟩
  else failure

/-- The public key of a private key that comes with the name of its kind. -/
def NamedKey.publicKey? (k : NamedKey) : Option (List UInt8) :=
  if k.algorithm = edwardsAlgorithm then edwardsPublicKey? k.key k.publicKey
  else if k.publicKey.isSome then none
  else if k.algorithm = rsaAlgorithm then rsaPublicKey? k.key
  else curvePublicKey? ([Curve.p256, Curve.p384].filter fun c => k.algorithm = c.algorithm) k.key

/-- The public key of a private key of some layout. -/
def publicKeyOf? (layout : KeyLayout) (key : List UInt8) : Option (List UInt8) :=
  match layout with
  | .rsa => rsaPublicKey? key
  | .curve => curvePublicKey? [Curve.p256, Curve.p384] key
  | .general => (complete NamedKey.reader key).bind NamedKey.publicKey?

end TaskTail.Identity
