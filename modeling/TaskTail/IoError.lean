/-
Failures of input and output.  A failure is an error number of the operating system, a bare kind, or a kind with a
text of its own; its kind decides how a reader treats it and its message is what a person is shown.
-/
import TaskTail.IoError.SystemNumber
namespace TaskTail

inductive IoError
  | system (number : Int)
  | plain (kind : IoErrorKind)
  | custom (kind : IoErrorKind) (text : String)
  deriving DecidableEq, Repr, Inhabited

namespace IoError

def kind : IoError → IoErrorKind
  | system number => (systemError number).1
  | plain kind => kind
  | custom kind _ => kind

def message : IoError → String
  | system number => (systemError number).2 ++ " (os error " ++ toString number ++ ")"
  | plain kind => kind.description
  | custom _ text => text

def notFound : IoError := .system 2

/-- A step of the path goes through something that is not a directory. -/
def notADirectory : IoError := .system 20

def isADirectory : IoError := .system 21

/-- A name or the whole path is too long. -/
def nameTooLong : IoError := .system 36

def tooManyLinks : IoError := .system 40

def invalidArgument : IoError := .system 22

/-- The address is not one of this machine. -/
def addressNotAvailable : IoError := .system 99

/-- The path holds a NUL character, which no file name can. -/
def nulInPath : IoError := .custom .invalidInput "file name contained an unexpected NUL byte"

end IoError

end TaskTail
