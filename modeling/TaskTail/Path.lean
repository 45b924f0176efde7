/-
Paths of output files.  A path is kept and shown exactly as it was given; it is compared by its components, so that
repeated and trailing slashes and inner dots make no difference.
-/
import TaskTail.Text.Utf8
namespace TaskTail

/-- A path as it was given. -/
structure Path where
  text : String
  deriving DecidableEq, Repr, Inhabited

namespace Path

instance : ToString Path := ⟨Path.text⟩

/-- The path with the given bytes, in the form in which it is shown. -/
def ofBytes (bytes : List UInt8) : Path :=
  ⟨Text.decodeLossy bytes⟩

inductive Component
  | root
  | here
  | parent
  | name (text : String)
  deriving DecidableEq, Repr

def isAbsolute (p : Path) : Bool :=
  p.text.startsWith "/"

/-- The texts between the slashes of the path, empty ones included. -/
def segments (p : Path) : List String :=
  p.text.splitOn "/"

/-- The step that a segment asks for; empty segments and dots ask for none. -/
def Component.ofSegment? (segment : String) : Option Component :=
  if segment = "" || segment = "." then none
  else if segment = ".." then some .parent
  else some (.name segment)

/-- The steps of the path.  A dot counts only as the very first segment of a relative path. -/
def components (p : Path) : List Component :=
  let steps := p.segments.filterMap Component.ofSegment?
  if p.isAbsolute then .root :: steps
  else if p.segments.head? = some "." then .here :: steps
  else steps

/-- Whether two paths have the same steps. -/
def equivalent (p q : Path) : Bool :=
  p.components == q.components

end Path

end TaskTail
