/-
Files by what they hold.  A monitor reads its certificate and key whole; a snapshot of the files that it serves is
their contents at one moment, and opening a path then gives a file that stays as it was.
-/
import TaskTail.Path
import TaskTail.Files.OpenFile
namespace TaskTail

/-- What reading a whole file gives at one moment. -/
abbrev Contents := Path → Except IoError ByteArray

namespace Contents

/-- What opening a path gives: a directory opens although it cannot be read. -/
def openFile (contents : Contents) (path : Path) : Except IoError OpenFile :=
  match contents path with
  | .ok content => .ok (.regular content)
  | .error error => if error = .isADirectory then .ok .directory else .error error

def greatestLength (contents : Contents) (paths : List Path) : Nat :=
  paths.foldl (fun length path => max length ((contents path).toOption.elim 0 ByteArray.size)) 0

end Contents

end TaskTail
