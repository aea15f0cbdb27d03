import Missive.Files.Access
/-!
# File trees

A file system as a value: the files and directories under a root, without links.

* `FileTree`, `node?`, `put` -- the entries of a tree by their places;
* `FileTree.locate` -- the place that a path leads to, from the root or from the working directory;
* `FileTree.read`, `FileTree.write` -- reading and writing; a failing write changes nothing;
* `FileTree.access` -- the tree as a file system;
* `FileTree.addFile`, `FileTree.addDirectory`, `FileTree.files` -- making a tree, and its content.
-/

namespace Missive

/-- An entry of a file tree. -/
inductive Node where
  | file (bytes : Bytes)
  | directory
  deriving DecidableEq, Repr

/-- A place in a file tree: the names that lead to it from the root. -/
abbrev Place := List Bytes

/-- A file tree.  Of two entries at one place the first one counts. -/
structure FileTree where
  /-- The working directory, where relative paths start. -/
  working : Place
  entries : List (Place × Node)
  deriving DecidableEq, Repr

namespace FileTree

/-- The entry at a place.  The working directory and those around it are directories. -/
def node? (tree : FileTree) (place : Place) : Option Node :=
  if place.isPrefixOf tree.working then some .directory else tree.entries.lookup place

/-- The tree without entries. -/
def empty (working : Place) : FileTree :=
  ⟨working, []⟩

/-- Puts an entry at a place. -/
def put (tree : FileTree) (place : Place) (node : Node) : FileTree :=
  { tree with entries := (place, node) :: tree.entries.filter (·.1 != place) }

/-- The place where a path starts. -/
def start (tree : FileTree) (path : Path) : Place :=
  if path.isAbsolute then [] else tree.working

/-- The place that one more part of a path leads to; there is nothing around the root. -/
def onward (place : Place) (part : Bytes) : Place :=
  if part == Path.parent then place.dropLast
  else if Path.isMove part then place ++ [part]
  else place

/-- Follows the parts of a path, each of which must lead to a directory. -/
def follow (tree : FileTree) : Place → List Bytes → Except FileFault Place
  | place, [] => .ok place
  | place, part :: rest =>
    if Path.isLongPart part then .error .nameTooLong
    else
      let next := onward place part
      match tree.node? next with
      | none => .error .notFound
      | some (.file _) => .error .notDirectory
      | some .directory => follow tree next rest

/-- Where a path leads. -/
structure Location where
  place : Place
  /-- Whether the last part is longer than a file can be named. -/
  tooLong : Bool
  /-- Whether the path ends in a slash. -/
  slash : Bool

/-- The location of a path; all of its parts but the last must lead to directories. -/
def locate (tree : FileTree) (path : Path) : Except FileFault Location :=
  if path.bytes.isEmpty then .error .notFound
  else if path.bytes.contains 0 then .error .nullInPath
  else if path.isLong then .error .nameTooLong
  else
    let reversed := path.parts.reverse
    let named := reversed.dropWhile List.isEmpty
    match tree.follow (tree.start path) named.tail.reverse with
    | .error fault => .error fault
    | .ok place =>
      let last := named.headD []
      .ok ⟨onward place last, Path.isLongPart last, (reversed.headD []).isEmpty⟩

/-- The content of a file. -/
def read (tree : FileTree) (path : Path) : Except FileFault Bytes :=
  match tree.locate path with
  | .error fault => .error fault
  | .ok location =>
    match tree.node? location.place with
    | none => .error (if location.tooLong then .nameTooLong else .notFound)
    | some .directory => .error .isDirectory
    | some (.file bytes) => if location.slash then .error .notDirectory else .ok bytes

/-- Writes a file in place of an old one, or a new one. -/
def write (tree : FileTree) (path : Path) (bytes : Bytes) : Except FileFault FileTree :=
  match tree.locate path with
  | .error fault => .error fault
  | .ok location =>
    match tree.node? location.place with
    | some .directory => .error .isDirectory
    | _ =>
      if location.slash then .error .isDirectory
      else if location.tooLong then .error .nameTooLong
      else .ok (tree.put location.place (.file bytes))

/-- The tree as a file system. -/
def access : FileAccess (StateM FileTree) where
  read path := do return (← get).read path
  write path bytes := do
    match (← get).write path bytes with
    | .error fault => return .error fault
    | .ok tree =>
      set tree
      return .ok ()

/-- Adds the directories on the way from a place, and the last one as well. -/
def addDirectories (tree : FileTree) (place : Place) : List Bytes → FileTree
  | [] => tree
  | part :: rest =>
    let next := onward place part
    let tree := if (tree.node? next).isSome then tree else tree.put next .directory
    addDirectories tree next rest

/-- Adds a directory, and those around it. -/
def addDirectory (tree : FileTree) (path : Path) : FileTree :=
  tree.addDirectories (tree.start path) path.parts

/-- Adds a file, and the directories around it. -/
def addFile (tree : FileTree) (path : Path) (bytes : Bytes) : FileTree :=
  let around := tree.addDirectories (tree.start path) path.parts.dropLast
  around.put (path.parts.foldl onward (tree.start path)) (.file bytes)

/-- The files under the working directory, with their paths from there. -/
def files (tree : FileTree) : List (Path × Bytes) :=
  tree.entries.filterMap fun (place, node) =>
    match node with
    | .file bytes =>
      if tree.working.isPrefixOf place then
        some (.ofParts (place.drop tree.working.length), bytes)
      else none
    | .directory => none

end FileTree

end Missive
