/-
Elliptic curves over a prime field, of the form y² = x³ - 3x + b, with a prime number of points.  A private key is a
number of steps from a base point, its public key the place that they lead to.
-/
import TaskTail.Identity.Der
import TaskTail.Number.Modular
namespace TaskTail.Identity

/-- A curve with a base point. -/
structure Curve where
  /-- The name of the curve, as an element. -/
  name : List UInt8
  /-- How many bytes a coordinate takes. -/
  width : Nat
  /-- The size of the field. -/
  prime : Nat
  b : Int
  /-- How many points there are. -/
  order : Nat
  baseX : Int
  baseY : Int

/-- A point by three coordinates, of which only the ratios count; at infinity the third is zero. -/
structure CurvePoint where
  x : Int
  y : Int
  z : Int

namespace Curve

/-- The sum of any two points, the same and infinite ones included. -/
def add (c : Curve) (s t : CurvePoint) : CurvePoint :=
  let p : Int := c.prime
  let xx := s.x * t.x % p
  let yy := s.y * t.y % p
  let zz := s.z * t.z % p
  let xy := (s.x * t.y + t.x * s.y) % p
  let yz := (s.y * t.z + t.y * s.z) % p
  let xz := (s.x * t.z + t.x * s.z) % p
  let slope := (3 * xx - 3 * zz) % p
  let offset := (3 * c.b * zz - 3 * xz) % p
  let cross := (3 * c.b * xz - 3 * xx - 9 * zz) % p
  let less := (yy - offset) % p
  let more := (yy + offset) % p
  ⟨(xy * less - yz * cross) % p, (more * less + slope * cross) % p, (yz * more + xy * slope) % p⟩

/-- The place that some steps from the base point lead to. -/
def walk (c : Curve) (steps : Nat) : CurvePoint :=
  (Number.bitsOf (8 * c.width) steps).foldl (fun s bit =>
    let twice := c.add s s
    if bit then c.add twice ⟨c.baseX, c.baseY, 1⟩ else twice) ⟨0, 1, 0⟩

/-- The public key of a private key: both coordinates in full. -/
def publicKey (c : Curve) (steps : Nat) : List UInt8 :=
  let place := c.walk steps
  let unit := Number.inverseModulo place.z c.prime
  let coordinate := fun n : Int => Der.ofNumber c.width (n * unit % c.prime).toNat
  0x04 :: (coordinate place.x ++ coordinate place.y)

def p256 : Curve where
  name := [0x06, 0x08, 0x2a, 0x86, 0x48, 0xce, 0x3d, 0x03, 0x01, 0x07]
  width := 32
  prime := 0xffffffff00000001000000000000000000000000ffffffffffffffffffffffff
  b := 0x5ac635d8aa3a93e7b3ebbd55769886bc651d06b0cc53b0f63bce3c3e27d2604b
  order := 0xffffffff00000000ffffffffffffffffbce6faada7179e84f3b9cac2fc632551
  baseX := 0x6b17d1f2e12c4247f8bce6e563a440f277037d812deb33a0f4a13945d898c296
  baseY := 0x4fe342e2fe1a7f9b8ee7eb4a7c0f9e162bce33576b315ececbb6406837bf51f5

def p384 : Curve where
  name := [0x06, 0x05, 0x2b, 0x81, 0x04, 0x00, 0x22]
  width := 48
  prime := 0xfffffffffffffffffffffffffffffffffffffffffffffffffffffffffffffffeffffffff0000000000000000ffffffff
  b := 0xb3312fa7e23ee7e4988e056be3f82d19181d9c6efe8141120314088f5013875ac656398d8a2ed19d2a85c8edd3ec2aef
  order := 0xffffffffffffffffffffffffffffffffffffffffffffffffc7634d81f4372ddf581a0db248b0a77aecec196accc52973
  baseX := 0xaa87ca22be8b05378eb1c71ef320ad746e1d3b628ba79b9859f741e082542a385502f25dbf55296c3a545e3872760ab7
  baseY := 0x3617de4a96262c6f5d9e98bf9292dc29f8f41dbd289a147ce9da3113b5f0b8c00a60b1ce1d7e819d7a431d7c90ea0e5f

end Curve

end TaskTail.Identity
