/-
Changes to a tree of files.  Writing goes through symbolic links; making, removing and renaming act on the name
itself, which must be a proper name and may be followed by slashes only where a directory is meant.  An action that
cannot be carried out changes nothing.
-/
import TaskTail.Files.Resolve
namespace TaskTail

inductive FileAction
  /-- Makes `data` the whole content of a file, which is created if need be. -/
  | write (path : Path) (data : ByteArray)
  /-- Adds `data` at the end of a file, which is created if need be. -/
  | append (path : Path) (data : ByteArray)
  /-- Cuts a file to `length` bytes, or fills it up with zeros. -/
  | truncate (path : Path) (length : Nat)
  | remove (path : Path)
  | makeDirectory (path : Path)
  /-- Gives a file or directory another name, in the place of any file of that name. -/
  | rename (path target : Path)
  /-- Makes `path` a symbolic link with the given text. -/
  | makeLink (path : Path) (target : String)

namespace Path

/-- Whether the last step of the path is a name. -/
def endsInName (p : Path) : Bool :=
  match (p.segments.filter (· ≠ "")).getLast? with
  | some segment => segment ≠ "." && segment ≠ ".."
  | none => false

/-- Whether a slash is the last character of the path, so that it can only mean a directory. -/
def endsInSlash (p : Path) : Bool :=
  p.text.endsWith "/"

def withoutEndSlashes (p : Path) : Path :=
  ⟨.ofList (p.text.toList.reverse.dropWhile (· = '/')).reverse⟩

end Path

namespace FileTree

/-- The place that the name at the end of a path stands for, and what is there. -/
def entry? (tree : FileTree) (path : Path) : Option Destination :=
  if path.endsInName then (tree.resolve false path.withoutEndSlashes).toOption else none

def isLinkTarget (target : String) : Bool :=
  target ≠ "" && !target.contains '\x00' && target.utf8ByteSize ≤ maxPathLength

/-- Changes the content of the file at a path, where a file that does not exist counts as empty. -/
def modify (tree : FileTree) (path : Path) (change : ByteArray → ByteArray) : FileTree :=
  match tree.resolve true path with
  | .ok (.free place) => tree.put place (.file (change .empty))
  | .ok (.node place (.file content)) => tree.put place (.file (change content))
  | _ => tree

/-- The content cut to `length` bytes, or filled up with zeros. -/
def resize (content : ByteArray) (length : Nat) : ByteArray :=
  content.extract 0 length ++ zeros (length - content.size)

/-- Puts a node at the place of a path if nothing is there. -/
def create (tree : FileTree) (path : Path) (node : Node) : FileTree :=
  match tree.entry? path with
  | some (.free place) => if path.endsInSlash && !node.isDirectory then tree else tree.put place node
  | _ => tree

/-- Takes a file or a link away; a directory stays. -/
def remove (tree : FileTree) (path : Path) : FileTree :=
  match tree.resolve false path with
  | .ok (.node _ .directory) => tree
  | .ok (.node place _) => tree.erase place
  | _ => tree

/-- Moves everything at or below `source` to `target`. -/
def move (tree : FileTree) (source target : Place) : FileTree :=
  let below := fun place : Place => source.isSuffixOf place
  let nodes := tree.nodes.filter (·.1 != target)
  { tree with nodes := nodes.map fun (place, node) =>
      if below place then (place.take (place.length - source.length) ++ target, node) else (place, node) }

/-- Gives a node another name.  A directory can take the place of an empty directory only, and all else only the
place of what is not a directory; nothing can move into itself. -/
def rename (tree : FileTree) (path target : Path) : FileTree :=
  match tree.entry? path, tree.entry? target with
  | some (.node source node), some destination =>
    let place := destination.place
    let fits := match destination with
      | .free _ => true
      | .node _ replaced => node.isDirectory == replaced.isDirectory
    let occupied := tree.nodes.any fun entry => entry.1 ≠ place && place.isSuffixOf entry.1
    let misread := !node.isDirectory && (path.endsInSlash || target.endsInSlash)
    if misread || source.isSuffixOf place || occupied || !fits then tree else tree.move source place
  | _, _ => tree

def apply (tree : FileTree) : FileAction → FileTree
  | .write path data => tree.modify path fun _ => data
  | .append path data => tree.modify path (· ++ data)
  | .truncate path length =>
    match tree.resolve true path with
    | .ok (.node place (.file content)) => tree.put place (.file (resize content length))
    | _ => tree
  | .remove path => tree.remove path
  | .makeDirectory path => tree.create path .directory
  | .rename path target => tree.rename path target
  | .makeLink path target => if isLinkTarget target then tree.create path (.link target) else tree

end FileTree

end TaskTail
