import LanguageBroker.Path

/-!
A tree of directories and files as far as the broker looks at it: what a path leads to, and
whether that is a program.
-/

namespace LanguageBroker

/-- What stands at a place of the tree. -/
inductive FileNode
  | directory
  | file (content : List UInt8) (executable : Bool)
  deriving DecidableEq, Repr

/-- Places by the names that lead to them from the root, and the directory that relative paths
count from. -/
structure FileTree where
  nodes : List (List (List UInt8) × FileNode) := []
  current : Path := ⟨[Path.separator]⟩
  deriving Repr

namespace FileTree

/-- The node at a place. The root is a directory. -/
def node? (t : FileTree) (place : List (List UInt8)) : Option FileNode :=
  if place.isEmpty then some .directory else t.nodes.lookup place

/-- Follows names from a directory. Every place passed through has to be a directory. -/
def follow (t : FileTree) (place : List (List UInt8)) :
    List (List UInt8) → Option (List (List UInt8))
  | [] => some place
  | name :: names =>
    match t.node? place with
    | some .directory =>
      if name = [] || name = [Path.dot] then follow t place names
      else if name = [Path.dot, Path.dot] then follow t place.dropLast names
      else follow t (place ++ [name]) names
    | _ => none

/-- What a path leads to. -/
def find? (t : FileTree) (p : Path) : Option FileNode :=
  if p.bytes.isEmpty then none
  else (t.follow [] (Path.segments (t.current.join p).bytes)).bind t.node?

/-- The content of the file that a path leads to. -/
def content? (t : FileTree) (p : Path) : Option (List UInt8) :=
  match t.find? p with
  | some (.file content _) => some content
  | _ => none

def isProgram (t : FileTree) (p : Path) : Bool :=
  match t.find? p with
  | some (.file _ executable) => executable
  | _ => false

/-- Puts a node at a place and directories on the way to it. -/
def insert (t : FileTree) (place : List (List UInt8)) (node : FileNode) : FileTree :=
  let above := (List.range place.length).map fun n => (place.take n, FileNode.directory)
  { t with nodes := (place, node) :: above ++ t.nodes }

end FileTree

end LanguageBroker
