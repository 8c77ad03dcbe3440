import VinylSyntax.SourceFile

/-!
# Folders

A folder is a tree of directories and files that a path is looked up in. A path is walked name by
name; every name but the last must lead to a directory, and so must a path that ends with a slash.
Of what lies outside the folder only the directories above it are known.
-/

namespace VinylSyntax

/-- What a folder has at a place. -/
inductive Node where
  | directory
  | file (bytes : ByteArray)
deriving Inhabited

/-- A place that a walk from the folder can reach: the names that lead there. The place of no names
is the folder itself. Outside the folder a place begins with `..`, one for each directory that it
lies above, or with `/`, the top of all directories. -/
abbrev Place := List String

namespace Place

/-- The top of all directories. -/
def top : Place := ["/"]

/-- Whether a place is the folder itself, a directory above it, or the top. -/
def isAncestor (place : Place) : Bool := place == top || place.all (· == "..")

/-- The directory above a place; the top has none but itself. -/
def above (place : Place) : Place :=
  if place == top then top
  else if place.isAncestor then place ++ [".."]
  else place.dropLast

/-- The place that a name leads to. -/
def enter (place : Place) (name : String) : Place :=
  if name == "." then place
  else if name == ".." then place.above
  else place ++ [name]

end Place

/-- The files and directories of a folder, each at its place. -/
structure Folder where
  nodes : List (Place × Node)
deriving Inhabited

namespace Folder

/-- The folder without files. -/
def empty : Folder := ⟨[]⟩

/-- What a folder has at a place. -/
def node? (folder : Folder) (place : Place) : Option Node :=
  if place.isAncestor then some .directory else folder.nodes.lookup place

/-- Where the walk along a path begins. -/
def start (path : String) : Place := if path.startsWith "/" then .top else []

/-- The names that make up a path. A slash at its end asks for a directory, as `.` does. -/
def names (path : String) : List String :=
  let parts := path.splitOn "/"
  let named := parts.filter fun part => !part.isEmpty
  if path.endsWith "/" && !named.isEmpty then named ++ ["."] else named

/-- Puts directories at the places along the way of some names, unless something is there, and a
node at the last. -/
def addFrom (folder : Folder) (place : Place) (node : Node) : List String → Folder
  | [] => ⟨(place, node) :: folder.nodes⟩
  | name :: names =>
    let known := (folder.node? place).isSome
    let folder := if known then folder else ⟨(place, .directory) :: folder.nodes⟩
    folder.addFrom (place.enter name) node names

/-- Puts a node at the end of a path, with the directories that lead there. -/
def add (folder : Folder) (path : String) (node : Node) : Folder :=
  folder.addFrom (start path) node (names path)

/-- Goes on by a name from a directory, if the name leads somewhere. -/
def step (folder : Folder) (place : Place) (name : String) : Option Place :=
  match folder.node? place with
  | some .directory =>
    let next := place.enter name
    (folder.node? next).map fun _ => next
  | _ => none

/-- The number of bytes from which on a path is too long to be looked up. -/
def pathReach : Nat := 4096

/-- What a folder has at the end of a path. -/
def entry (folder : Folder) (path : String) : Entry :=
  if pathReach ≤ path.utf8ByteSize then .absent
  else
    match (names path).foldlM folder.step (start path) with
    | none => .absent
    | some place =>
      match folder.node? place with
      | none => .absent
      | some .directory => .directory
      | some (.file bytes) => .file bytes

end Folder

end VinylSyntax
