/-
The settings of a monitor and the failures that keep it from serving.  A monitor first takes its address, then reads
the certificate and the key, and serves encrypted only when both are set.
-/
import TaskTail.Monitor.LogLevel
import TaskTail.Entry
import TaskTail.IoError
namespace TaskTail

/-- How many bytes one read gives at most, unless set otherwise. -/
def defaultMaxReadSize : Nat := 16 * 1024 * 1024

/-- How long an encoded reply may be, unless set otherwise: a full read and its framing. -/
def defaultMaxReplySize : Nat := defaultMaxReadSize + 1024

/-- How many bytes a tail asks for at once, unless set otherwise. -/
def defaultChunkSize : Nat := 100000

structure MonitorConfig where
  bindAddress : String := "[::1]:50052"
  certificate : Option Path := none
  key : Option Path := none
  maxReadSize : Nat := defaultMaxReadSize
  logLevel : LogLevel := .info
  watches : List TaskEntry := []
  deriving DecidableEq, Inhabited

def MonitorConfig.tlsEnabled (config : MonitorConfig) : Bool :=
  config.certificate.isSome && config.key.isSome

inductive TlsFile
  | certificate
  | key
  deriving DecidableEq, Repr

/-- The name of the file's role in messages. -/
def TlsFile.name : TlsFile → String
  | certificate => "TLS certificate"
  | key => "TLS key"

inductive MonitorError
  | bind (address : String) (source : IoError)
  | unreadable (file : TlsFile) (path : Path) (source : IoError)
  | transport
  deriving DecidableEq, Repr

def MonitorError.message : MonitorError → String
  | bind address source => "Failed to bind " ++ address ++ ": " ++ source.message
  | unreadable file path source => "Failed to read " ++ file.name ++ " from '" ++ path.text ++ "': " ++ source.message
  | transport => "gRPC transport error: transport error"

end TaskTail
