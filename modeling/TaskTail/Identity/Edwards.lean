/-
The curve -x² + y² = 1 + d x² y² over the field of 2²⁵⁵ - 19 elements.  A private key is a seed; half of its digest,
with some bits fixed, is a number of steps from a base point, and the public key is the place that they lead to.
-/
import TaskTail.Identity.Sha512
import TaskTail.Number.Modular
namespace TaskTail.Identity.Edwards

def prime : Nat := 0x7fffffffffffffffffffffffffffffffffffffffffffffffffffffffffffffed

/-- The coefficient of the curve. -/
def d : Int := 0x52036cee2b6ffe738cc740797779e89800700a4d4141d8ab75eb4dca135978a3

/-- A point by three coordinates, of which only the ratios count. -/
structure Point where
  x : Int
  y : Int
  z : Int

def base : Point :=
  ⟨0x216936d3cd6e53fec0a4e231fdd6dc5c692cc7609525a7b2c9562d608f25d51a,
    0x6666666666666666666666666666666666666666666666666666666666666658, 1⟩

/-- The sum of any two points, the same ones included. -/
def add (s t : Point) : Point :=
  let p : Int := prime
  let zz := s.z * t.z % p
  let xx := s.x * t.x % p
  let yy := s.y * t.y % p
  let both := d * xx * yy % p
  let less := (zz * zz - both) % p
  let more := (zz * zz + both) % p
  let xy := ((s.x + s.y) * (t.x + t.y) - xx - yy) % p
  ⟨zz * less * xy % p, zz * more * (yy + xx) % p, less * more % p⟩

/-- The place that some steps from the base point lead to. -/
def walk (steps : Nat) : Point :=
  (Number.bitsOf 256 steps).foldl (fun s bit =>
    let twice := add s s
    if bit then add twice base else twice) ⟨0, 1, 1⟩

/-- The number of steps of a seed: the lowest three bits and the highest are clear, the one below it is set. -/
def stepsOf (seed : List UInt8) : Nat :=
  let n := Der.toNumber ((Sha512.digest seed).take 32).reverse
  n % Nat.pow 2 254 / 8 * 8 + Nat.pow 2 254

/-- The public key of a seed: the second coordinate, the lowest byte first, and as the highest bit whether the first
coordinate is odd. -/
def publicKey (seed : List UInt8) : List UInt8 :=
  let place := walk (stepsOf seed)
  let unit := Number.inverseModulo place.z prime
  let x := (place.x * unit % prime).toNat
  let y := (place.y * unit % prime).toNat
  (Der.ofNumber 32 (y + x % 2 * Nat.pow 2 255)).reverse

end TaskTail.Identity.Edwards
