import StaticDns.Host.SystemError
import StaticDns.Octets
import StaticDns.Text.Split
import StaticDns.Text.Utf8

/-!
# StaticDns.Host.FileTree — files and directories

The files that a process can see: numbered nodes, of which the directories hold the numbers of their
entries, and the directory in which paths without a leading slash begin. A path is followed part by
part, and only its last part may be missing.

* `locate`: the place that a path names.
* `read`, `write`, `append`, `remove`, `createDirectories`: what a process does with paths.
-/

namespace StaticDns

inductive Node where
  | file (content : Octets)
  /-- A directory, with the number of the directory that it is in and with its entries. -/
  | directory (parent : Nat) (entries : List (String × Nat))
  /-- A file that is always empty, whatever is written to it. -/
  | sink
  deriving DecidableEq, Repr

/-- Files and directories by their numbers. The root has the number zero. -/
structure FileTree where
  nodes : Array Node := #[.directory 0 []]
  working : Nat := 0

namespace FileTree

/-- The longest name of a file, in octets. -/
def maxFileName : Nat := 255

/-- The number of octets that a path must stay below. -/
def maxPath : Nat := 4096

/-- The node with a number. Numbers come from directories, which know only nodes that exist. -/
def node (tree : FileTree) (number : Nat) : Node := tree.nodes.getD number .sink

def put (tree : FileTree) (number : Nat) (node : Node) : FileTree :=
  { tree with nodes := tree.nodes.setIfInBounds number node }

/-- The tree with other entries in a directory. -/
def changeEntries (tree : FileTree) (number : Nat)
    (change : List (String × Nat) → List (String × Nat)) : FileTree :=
  match tree.node number with
  | .directory parent entries => tree.put number (.directory parent (change entries))
  | _ => tree

/-- The tree with a new node under a name in a directory. -/
def add (tree : FileTree) (directory : Nat) (name : String) (node : Node) : FileTree :=
  { tree with nodes := tree.nodes.push node }.changeEntries directory
    fun entries => (name, tree.nodes.size) :: entries

/-! ## Paths -/

inductive Place where
  | taken (number : Nat)
  /-- A name that a directory has no entry for. -/
  | free (directory : Nat) (name : String)
  deriving DecidableEq, Repr

/-- Accepts a path that the host looks at. -/
def checkPath (path : String) : Except SystemError Unit :=
  if path.toList.contains '\x00' then .error .nulInName
  else if path = "" then .error .noSuchFile
  else if maxPath ≤ path.utf8ByteSize then .error .nameTooLong
  else .ok ()

/-- The number and the entries of the directory at a place. -/
def directoryAt (tree : FileTree) (place : Place) :
    Except SystemError (Nat × List (String × Nat)) :=
  match place with
  | .free _ _ => .error .noSuchFile
  | .taken number =>
    match tree.node number with
    | .directory _ entries => .ok (number, entries)
    | _ => .error .notDirectory

/-- Follows one part of a path from a place that has to be a directory. -/
def follow (tree : FileTree) (place : Place) (part : String) : Except SystemError Place := do
  let (number, entries) ← tree.directoryAt place
  if part = "" ∨ part = "." then return place
  if part = ".." then
    match tree.node number with
    | .directory parent _ => return .taken parent
    | _ => return place
  if maxFileName < part.utf8ByteSize then throw .nameTooLong
  match entries.lookup part with
  | some entry => return .taken entry
  | none => return .free number part

def parts (path : String) : List String :=
  (Text.pieces (· == '/') path.toList).map String.ofList

/-- The directory in which a path begins. -/
def start (tree : FileTree) (path : String) : Place :=
  .taken (if path.startsWith "/" then 0 else tree.working)

/-- The place that a path names, whether or not anything is there. -/
def locate (tree : FileTree) (path : String) : Except SystemError Place := do
  checkPath path
  (parts path).foldlM tree.follow (tree.start path)

def read (tree : FileTree) (path : String) : Except SystemError Octets := do
  match ← tree.locate path with
  | .free _ _ => throw .noSuchFile
  | .taken number =>
    match tree.node number with
    | .directory _ _ => throw .isDirectory
    | .file content => return content
    | .sink => return []

/-! ## Changes -/

/-- A path as those see it who change the directory that it leads into. -/
structure Target where
  directory : Nat
  name : String
  /-- Whether there are slashes behind the last part. -/
  slashed : Bool

/-- Whether the target leads to the entry of a directory, and not to a directory as such. -/
def Target.isEntry (target : Target) : Bool := target.name ∉ ["", ".", ".."]

/-- Follows a path up to its last part. -/
def target (tree : FileTree) (path : String) : Except SystemError Target := do
  checkPath path
  let bare := (path.toList.reverse.dropWhile (· == '/')).reverse
  let names := parts (String.ofList bare)
  let front ← names.dropLast.foldlM tree.follow (tree.start path)
  let (directory, _) ← tree.directoryAt front
  return ⟨directory, names.getLast?.getD "", bare.length < path.length⟩

/-- The place that a target leads to. -/
def Target.place (tree : FileTree) (target : Target) : Except SystemError Place :=
  tree.follow (.taken target.directory) target.name

/-- Changes the content of the file that a path names, which is made if it is missing. Where a path
can only name a directory, its last part is not looked up. -/
def modify (tree : FileTree) (path : String) (change : Octets → Octets) :
    Except SystemError FileTree := do
  let target ← tree.target path
  if !target.isEntry || target.slashed then throw .isDirectory
  match ← target.place tree with
  | .free directory name => return tree.add directory name (.file (change []))
  | .taken number =>
    match tree.node number with
    | .directory _ _ => throw .isDirectory
    | .file content => return tree.put number (.file (change content))
    | .sink => return tree

def append (tree : FileTree) (path : String) (octets : Octets) : Except SystemError FileTree :=
  tree.modify path (· ++ octets)

/-- Octets in place of what the file that a path names has held. -/
def write (tree : FileTree) (path : String) (octets : Octets) : Except SystemError FileTree :=
  tree.modify path fun _ => octets

def remove (tree : FileTree) (path : String) : Except SystemError FileTree := do
  let target ← tree.target path
  if !target.isEntry then throw .invalidArgument
  match ← target.place tree with
  | .free _ _ => throw .noSuchFile
  | .taken number =>
    let without := tree.changeEntries target.directory
      fun entries => entries.filter fun entry => entry.1 != target.name
    match tree.node number with
    | .directory _ entries => if entries.isEmpty then return without else throw .notEmpty
    | .file _ => if target.slashed then throw .notDirectory else return without
    | .sink => throw .permissionDenied

def createDirectory (tree : FileTree) (path : String) : Except SystemError FileTree := do
  let target ← tree.target path
  if !target.isEntry then throw .fileExists
  match ← target.place tree with
  | .taken _ => throw .fileExists
  | .free directory name => return tree.add directory name (.directory directory [])

/-! ## Directories on the way -/

/-- A reversed path without the slashes and dots that add nothing at its end. -/
def dropIdle : List Char → List Char
  | ['/'] => ['/']
  | '/' :: rest => dropIdle rest
  | '.' :: '/' :: rest => dropIdle ('/' :: rest)
  | cs => cs

/-- The path of the directory that holds what a path names, empty for the working directory. -/
def parent? (path : String) : Option String :=
  match dropIdle path.toList.reverse with
  | [] | ['/'] => none
  | cs => some (String.ofList (dropIdle (cs.dropWhile (· != '/'))).reverse)

def isDirectory (tree : FileTree) (path : String) : Bool :=
  match tree.locate path with
  | .ok place => (tree.directoryAt place).toBool
  | .error _ => false

/-- Makes a directory and says nothing if it is already there. -/
def ensureDirectory (tree : FileTree) (path : String) : Except SystemError FileTree :=
  match tree.createDirectory path with
  | .ok after => .ok after
  | .error cause => if tree.isDirectory path then .ok tree else .error cause

/-- Makes a directory after those that lead to it, at most `depth` of them. -/
def createWithin (depth : Nat) (tree : FileTree) (path : String) : Except SystemError FileTree :=
  if path = "" then .ok tree
  else match tree.ensureDirectory path, depth, parent? path with
  | .error .noSuchFile, depth + 1, some parent => do
    let tree ← createWithin depth tree parent
    tree.ensureDirectory path
  | made, _, _ => made

def createDirectories (tree : FileTree) (path : String) : Except SystemError FileTree :=
  createWithin path.length tree path

end FileTree

end StaticDns
