/-
Following a path through a tree of files.  Each segment but the last has to lead to a directory; empty segments and
dots stay where they are, two dots go up, and a symbolic link is replaced by its target, at most forty times on the
whole way.  A path is refused at once when it holds a NUL character, is empty or is too long.
-/
import TaskTail.Files.Tree
namespace TaskTail

/-- How many bytes one name may have. -/
def maxNameLength : Nat := 255

/-- How many bytes a whole path may have. -/
def maxPathLength : Nat := 4095

/-- How many symbolic links one path may lead through. -/
def maxLinks : Nat := 40

/-- Where a path leads: to a node, or to a free place in an existing directory. -/
inductive Destination
  | node (place : Place) (node : Node)
  | free (place : Place)

def Destination.place : Destination → Place
  | node place _ => place
  | free place => place

namespace FileTree

/-- Follows `segments` from the directory at `here`.  A link on the way is handed to `followLink` with the place and
the segments to go on with; the last segment may name a link itself unless `throughLast`. -/
def walkWith (tree : FileTree) (throughLast : Bool)
    (followLink : Place → List String → Except IoError Destination) (here : Place) :
    List String → Except IoError Destination
  | [] => .ok (.node here .directory)
  | segment :: rest =>
    if segment = "" || segment = "." then tree.walkWith throughLast followLink here rest
    else if segment = ".." then tree.walkWith throughLast followLink here.tail rest
    else if maxNameLength < segment.utf8ByteSize then .error .nameTooLong
    else
      let place := segment :: here
      match tree.node? place with
      | none => if rest.isEmpty then .ok (.free place) else .error .notFound
      | some .directory => tree.walkWith throughLast followLink place rest
      | some (.link target) =>
        if rest.isEmpty && !throughLast then .ok (.node place (.link target))
        else followLink (if target.startsWith "/" then [] else here) (target.splitOn "/" ++ rest)
      | some node => if rest.isEmpty then .ok (.node place node) else .error .notADirectory

/-- Follows `segments` from the directory at `here` through at most `links` symbolic links. -/
def walk (tree : FileTree) (throughLast : Bool) : (links : Nat) → (here : Place) → List String →
    Except IoError Destination
  | 0 => tree.walkWith throughLast fun _ _ => .error .tooManyLinks
  | links + 1 => tree.walkWith throughLast (tree.walk throughLast links)

/-- Where a path leads.  Unless `throughLast`, a symbolic link at its end is not followed. -/
def resolve (tree : FileTree) (throughLast : Bool) (path : Path) : Except IoError Destination :=
  if path.text.contains '\x00' then .error .nulInPath
  else if path.text = "" then .error .notFound
  else if maxPathLength < path.text.utf8ByteSize then .error .nameTooLong
  else tree.walk throughLast maxLinks (if path.isAbsolute then [] else tree.workingDirectory) path.segments

def zeros (count : Nat) : ByteArray :=
  ⟨Array.replicate count 0⟩

def openFile (tree : FileTree) (path : Path) : Except IoError OpenFile :=
  match tree.resolve true path with
  | .error error => .error error
  | .ok (.free _) => .error .notFound
  | .ok (.node _ (.file content)) => .ok (.regular content)
  | .ok (.node _ .directory) => .ok .directory
  | .ok (.node _ (.link _)) => .error .tooManyLinks
  | .ok (.node _ .nullDevice) => .ok (.device fun _ _ => .empty)
  | .ok (.node _ .zeroDevice) => .ok (.device fun _ room => zeros room)

/-- The whole content of a file.  A directory has none, and what never ends does not fit into memory. -/
def readAll (tree : FileTree) (path : Path) : Except IoError ByteArray :=
  match tree.resolve true path with
  | .error error => .error error
  | .ok (.free _) => .error .notFound
  | .ok (.node _ (.file content)) => .ok content
  | .ok (.node _ .directory) => .error .isADirectory
  | .ok (.node _ (.link _)) => .error .tooManyLinks
  | .ok (.node _ .nullDevice) => .ok .empty
  | .ok (.node _ .zeroDevice) => .error (.plain .outOfMemory)

end FileTree

end TaskTail
