/-
Starting to serve: the address is taken first, then the two files of encryption are read, and last they have to make
an identity together.
-/
import TaskTail.Files.Contents
import TaskTail.Identity
import TaskTail.Monitor.Address
import TaskTail.Monitor.Service
namespace TaskTail

def readTlsFile (contents : Contents) (file : TlsFile) (path : Path) : Except MonitorError ByteArray :=
  (contents path).mapError (.unreadable file path)

/-- The monitor that serves by some settings, or the first failure: of the address, of the certificate, of the key,
and last of the pair of them. -/
def Monitor.serve (config : MonitorConfig) (contents : Contents) : Except MonitorError Monitor := do
  (checkAddress config.bindAddress).mapError (.bind config.bindAddress)
  match config.certificate, config.key with
  | some certificatePath, some keyPath =>
    let certificate ← readTlsFile contents .certificate certificatePath
    let key ← readTlsFile contents .key keyPath
    if Identity.isAccepted certificate.data.toList key.data.toList then .ok (.ofConfig config) else .error .transport
  | _, _ => .ok (.ofConfig config)

end TaskTail
