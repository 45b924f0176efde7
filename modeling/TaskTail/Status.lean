/-
The outcome of a remote call that failed: one of the seventeen codes, numbered from zero, and a message.
-/
namespace TaskTail

inductive Code
  | ok
  | cancelled
  | unknown
  | invalidArgument
  | deadlineExceeded
  | notFound
  | alreadyExists
  | permissionDenied
  | resourceExhausted
  | failedPrecondition
  | aborted
  | outOfRange
  | unimplemented
  | internal
  | unavailable
  | dataLoss
  | unauthenticated
  deriving DecidableEq, Repr, Inhabited

namespace Code

/-- The codes in the order of their numbers, each with its name. -/
def table : List (Code × String) := [
  (ok, "Ok"), (cancelled, "Cancelled"), (unknown, "Unknown"), (invalidArgument, "InvalidArgument"),
  (deadlineExceeded, "DeadlineExceeded"), (notFound, "NotFound"), (alreadyExists, "AlreadyExists"),
  (permissionDenied, "PermissionDenied"), (resourceExhausted, "ResourceExhausted"),
  (failedPrecondition, "FailedPrecondition"), (aborted, "Aborted"), (outOfRange, "OutOfRange"),
  (unimplemented, "Unimplemented"), (internal, "Internal"), (unavailable, "Unavailable"),
  (dataLoss, "DataLoss"), (unauthenticated, "Unauthenticated")]

def name (code : Code) : String :=
  (table.lookup code).getD ""

def number (code : Code) : Nat :=
  table.findIdx fun entry => entry.1 = code

/-- The code of a number; a number that no code has stands for an unknown failure. -/
def ofNumber : Int → Code
  | .ofNat n => (table[n]?).elim unknown Prod.fst
  | .negSucc _ => unknown

end Code

structure Status where
  code : Code
  message : String
  deriving DecidableEq, Repr, Inhabited

end TaskTail
