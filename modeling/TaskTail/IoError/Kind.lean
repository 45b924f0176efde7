/-
Kinds of failures of input and output: what went wrong, as far as a reader of the failure can act on it.
-/
namespace TaskTail

/-- What went wrong, as far as a reader of the failure can act on it. -/
inductive IoErrorKind
  | notFound
  | permissionDenied
  | connectionRefused
  | connectionReset
  | connectionAborted
  | notConnected
  | hostUnreachable
  | networkUnreachable
  | networkDown
  | addressInUse
  | addressNotAvailable
  | brokenPipe
  | alreadyExists
  | wouldBlock
  | inProgress
  | notADirectory
  | isADirectory
  | directoryNotEmpty
  | readOnlyFilesystem
  | filesystemLoop
  | staleNetworkFileHandle
  | crossesDevices
  | tooManyLinks
  | invalidFilename
  | executableFileBusy
  | notSeekable
  | storageFull
  | quotaExceeded
  | fileTooLarge
  | argumentListTooLong
  | tooManyOpenFiles
  | resourceBusy
  | deadlock
  | invalidInput
  | invalidData
  | timedOut
  | writeZero
  | interrupted
  | unsupported
  | unexpectedEof
  | outOfMemory
  | inputOutputError
  | other
  | uncategorized
  deriving DecidableEq, Repr, Inhabited

namespace IoErrorKind

/-- The kinds, each with its name and the message of a failure that is known by its kind alone. -/
def table : List (IoErrorKind × String × String) := [
  (notFound, "NotFound", "entity not found"),
  (permissionDenied, "PermissionDenied", "permission denied"),
  (connectionRefused, "ConnectionRefused", "connection refused"),
  (connectionReset, "ConnectionReset", "connection reset"),
  (connectionAborted, "ConnectionAborted", "connection aborted"),
  (notConnected, "NotConnected", "not connected"),
  (hostUnreachable, "HostUnreachable", "host unreachable"),
  (networkUnreachable, "NetworkUnreachable", "network unreachable"),
  (networkDown, "NetworkDown", "network down"),
  (addressInUse, "AddrInUse", "address in use"),
  (addressNotAvailable, "AddrNotAvailable", "address not available"),
  (brokenPipe, "BrokenPipe", "broken pipe"),
  (alreadyExists, "AlreadyExists", "entity already exists"),
  (wouldBlock, "WouldBlock", "operation would block"),
  (inProgress, "InProgress", "in progress"),
  (notADirectory, "NotADirectory", "not a directory"),
  (isADirectory, "IsADirectory", "is a directory"),
  (directoryNotEmpty, "DirectoryNotEmpty", "directory not empty"),
  (readOnlyFilesystem, "ReadOnlyFilesystem", "read-only filesystem or storage medium"),
  (filesystemLoop, "FilesystemLoop", "filesystem loop or indirection limit (e.g. symlink loop)"),
  (staleNetworkFileHandle, "StaleNetworkFileHandle", "stale network file handle"),
  (crossesDevices, "CrossesDevices", "cross-device link or rename"),
  (tooManyLinks, "TooManyLinks", "too many links"),
  (invalidFilename, "InvalidFilename", "invalid filename"),
  (executableFileBusy, "ExecutableFileBusy", "executable file busy"),
  (notSeekable, "NotSeekable", "seek on unseekable file"),
  (storageFull, "StorageFull", "no storage space"),
  (quotaExceeded, "QuotaExceeded", "quota exceeded"),
  (fileTooLarge, "FileTooLarge", "file too large"),
  (argumentListTooLong, "ArgumentListTooLong", "argument list too long"),
  (tooManyOpenFiles, "TooManyOpenFiles", "too many open files"),
  (resourceBusy, "ResourceBusy", "resource busy"),
  (deadlock, "Deadlock", "deadlock"),
  (invalidInput, "InvalidInput", "invalid input parameter"),
  (invalidData, "InvalidData", "invalid data"),
  (timedOut, "TimedOut", "timed out"),
  (writeZero, "WriteZero", "write zero"),
  (interrupted, "Interrupted", "operation interrupted"),
  (unsupported, "Unsupported", "unsupported"),
  (unexpectedEof, "UnexpectedEof", "unexpected end of file"),
  (outOfMemory, "OutOfMemory", "out of memory"),
  (inputOutputError, "InputOutputError", "input/output error"),
  (other, "Other", "other error"),
  (uncategorized, "Uncategorized", "uncategorized error")]

def name (kind : IoErrorKind) : String :=
  (table.lookup kind).elim "" Prod.fst

/-- The message of a failure that is known by its kind alone. -/
def description (kind : IoErrorKind) : String :=
  (table.lookup kind).elim "" Prod.snd

def ofName? (name : String) : Option IoErrorKind :=
  (table.find? fun row => row.2.1 = name).map Prod.fst

end IoErrorKind

end TaskTail
