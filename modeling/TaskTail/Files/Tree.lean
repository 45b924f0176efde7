/-
A tree of files: regular files, directories, symbolic links and the two devices that a task may write to.  Every
node has a place, the names that lead to it from the root; only the root itself is not stored, as it is always a
directory.  Relative paths start at the working directory.
-/
import TaskTail.Path
import TaskTail.Files.OpenFile
namespace TaskTail

/-- Where a node is: the names on the way from the root, the last one first. -/
abbrev Place := List String

inductive Node
  | file (content : ByteArray)
  | directory
  | link (target : String)
  /-- A device that is always at its end. -/
  | nullDevice
  /-- A device that gives zeros for ever. -/
  | zeroDevice
  deriving Inhabited

def Node.isDirectory : Node → Bool
  | directory => true
  | _ => false

/-- The files that can be reached, and the directory at which relative paths start. -/
structure FileTree where
  nodes : List (Place × Node)
  workingDirectory : Place

namespace FileTree

def node? (tree : FileTree) : Place → Option Node
  | [] => some .directory
  | place => tree.nodes.lookup place

/-- Puts a node at a place, instead of any node that is there. -/
def put (tree : FileTree) (place : Place) (node : Node) : FileTree :=
  { tree with nodes := (place, node) :: tree.nodes.filter (·.1 != place) }

def erase (tree : FileTree) (place : Place) : FileTree :=
  { tree with nodes := tree.nodes.filter (·.1 != place) }

/-- A tree whose working directory is the given place and is empty; besides the way to it, only the devices exist. -/
def withWorkingDirectory (place : Place) : FileTree where
  nodes := [(["null", "dev"], .nullDevice), (["zero", "dev"], .zeroDevice), (["dev"], .directory)] ++
    (List.range place.length).map fun depth => (place.drop depth, .directory)
  workingDirectory := place

end FileTree

end TaskTail
