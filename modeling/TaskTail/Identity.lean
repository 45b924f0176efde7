/-
The identity of a server: a file with a chain of certificates and a file with a private key.  The first certificate
is the server's own, and its key has to be the one that the first private key belongs to.
-/
import TaskTail.Identity.Certificate
import TaskTail.Identity.PrivateKey
namespace TaskTail.Identity

/-- Whether two files make an identity. -/
def isAccepted (certificates key : List UInt8) : Bool :=
  match (Pem.ofFile certificates).certificates?, (Pem.ofFile key).privateKey? with
  | some (own :: _), some (layout, key) =>
    match Certificate.publicKey? own, publicKeyOf? layout key with
    | some certified, some derived => certified = derived
    | _, _ => false
  | _, _ => false

end TaskTail.Identity
