import Andromeda.Bytes
import Andromeda.CommandLine.Path

namespace Andromeda

inductive Node where
  | file (content : Bytes)
  | directory
  deriving DecidableEq, Repr

/-- Nodes by the text of their place. The current directory, the root and what lies above are
always there. -/
structure FileTree where
  nodes : List (String × Node)

inductive FileFault where
  | missing
  | isDirectory
  | notDirectory
  | fileExists
  | nameTooLong
  | tooManyMissing
  deriving DecidableEq, Repr

def FileFault.meansAbsent : FileFault → Bool
  | .missing => true
  | .notDirectory => true
  | _ => false

/-- How many bytes a name may have, and how many a path. -/
def longestName : Nat := 255
def longestPath : Nat := 4095

/-- How many directories can be made for one file. -/
def mostMissing : Nat := 980

def checkName (name : String) : Except FileFault Unit :=
  if longestName < name.utf8ByteSize then .error .nameTooLong else .ok ()

def Path.check (path : Path) : Except FileFault Unit :=
  if longestPath < path.text.utf8ByteSize then .error .nameTooLong else .ok ()

def Path.origin (path : Path) : Path := ⟨if path.root = "" then "" else "/", []⟩

def FileTree.node? (tree : FileTree) (place : Path) : Option Node :=
  if place.parts.all fun part => part = ".." then some .directory
  else tree.nodes.lookup place.text

def FileTree.insert (tree : FileTree) (place : Path) (node : Node) : FileTree :=
  let name := place.text
  ⟨(name, node) :: tree.nodes.filter fun entry => entry.1 ≠ name⟩

/-- What a walk along parts comes to. Only directories can be walked through. -/
def FileTree.walk (tree : FileTree) (place : Path) : List String → Except FileFault Node
  | [] =>
    match tree.node? place with
    | some node => .ok node
    | none => .error .missing
  | part :: parts =>
    match tree.node? place with
    | some .directory => do
      checkName part
      tree.walk (place.enter part) parts
    | some (.file _) => .error .notDirectory
    | none => .error .missing

def FileTree.find (tree : FileTree) (path : Path) : Except FileFault Node := do
  path.check
  tree.walk path.origin path.parts

def FileTree.content? (tree : FileTree) (path : Path) : Except FileFault (Option Bytes) :=
  match tree.find path with
  | .ok (.file content) => .ok (some content)
  | .ok .directory => .error .isDirectory
  | .error fault => if fault.meansAbsent then .ok none else .error fault

/-- What has become of a tree, and how the change to it ended. What was done before a fault is not
undone. -/
structure Change (α : Type) where
  files : FileTree
  result : Except FileFault α

/-- The tree with the directories of a walk made where they are missing, and where the walk
ends. A file in the way counts as no directory until one had to be made, and as a name that is
taken from then on or at the end of the walk. -/
def FileTree.makeDirectories (tree : FileTree) (made : Bool) (place : Path) :
    List String → Change Path
  | [] => ⟨tree, .ok place⟩
  | part :: parts =>
    match checkName part with
    | .error fault => ⟨tree, .error fault⟩
    | .ok () =>
      let next := place.enter part
      match tree.node? next with
      | some .directory => tree.makeDirectories made next parts
      | some (.file _) =>
        ⟨tree, .error (if made || parts.isEmpty then .fileExists else .notDirectory)⟩
      | none =>
        if !made && mostMissing ≤ parts.length then ⟨tree, .error .tooManyMissing⟩
        else (tree.insert next .directory).makeDirectories true next parts

def FileTree.target (tree : FileTree) (directory path : Path) : Except FileFault Path := do
  path.check
  match path.parts.getLast? with
  | none => .error .isDirectory
  | some name =>
    checkName name
    match tree.node? (directory.enter name) with
    | some .directory => .error .isDirectory
    | _ => return directory.enter name

def FileTree.directoriesFor (tree : FileTree) (path : Path) : Change Path :=
  tree.makeDirectories false path.origin path.parent.parts

def FileTree.write (tree : FileTree) (path : Path) (content : Bytes) : Change Unit :=
  match path.parent.check with
  | .error fault => ⟨tree, .error fault⟩
  | .ok () =>
    let made := tree.directoriesFor path
    match made.result with
    | .error fault => ⟨made.files, .error fault⟩
    | .ok directory =>
      match made.files.target directory path with
      | .error fault => ⟨made.files, .error fault⟩
      | .ok place => ⟨made.files.insert place (.file content), .ok ()⟩

def FileTree.changes (before after : FileTree) : List (String × Bytes) :=
  after.nodes.filterMap fun (name, node) =>
    match node with
    | .directory => none
    | .file content =>
      if before.nodes.lookup name = some (.file content) then none else some (name, content)

def FileTree.newDirectories (before after : FileTree) : List String :=
  after.nodes.filterMap fun (name, node) =>
    match node with
    | .directory => if before.nodes.lookup name = some .directory then none else some name
    | .file _ => none

def FileTree.insertFiles (tree : FileTree) (files : List (String × Bytes)) : FileTree :=
  files.foldl (fun tree file => (tree.write (.ofText file.1) file.2).files) tree

end Andromeda
