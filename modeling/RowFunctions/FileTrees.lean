import RowFunctions.FileFailures
import RowFunctions.FilePaths

/-!
# File trees

The files that a program can reach, and what access to them means.  A path is
walked part by part; every part but the last has to be a directory.  Programs are
written against `FileAccess`, of which a file tree with a working directory is
one model.
-/

namespace RowFunctions

/-- What a program may do with files. -/
class FileAccess (m : Type → Type) where
  /-- The absolute path of the working directory, if it is known. -/
  workingDirectory : m (Option String)
  /-- Whether a path leads to a file or directory. -/
  isPresent : String → m Bool
  /-- The path without dots, from the root, if it leads somewhere. -/
  canonical : String → m (Option String)
  /-- The text of a file. -/
  readText : String → m (Except FileFailure String)
  /-- Make or overwrite a file. -/
  writeText : String → String → m (Except FileFailure Unit)

/-- A place in a file tree. -/
inductive FileEntry where
  | directory
  | text (contents : String)
  | bytes
deriving DecidableEq

/-- A file tree, given by its places other than the root, and the working
directory in it. -/
structure FileTree where
  entries : List (List String × FileEntry)
  workingDirectory : List String

namespace FileTree

def maximalPartSize : Nat := 255

def maximalPathSize : Nat := 4095

def entry? (tree : FileTree) (place : List String) : Option FileEntry :=
  if place = [] then some .directory else tree.entries.lookup place

def put (tree : FileTree) (place : List String) (entry : FileEntry) : FileTree :=
  { tree with
    entries := (place, entry) :: tree.entries.filter fun other => other.1 != place }

/-- Make sure that a place is a directory to step from. -/
def checkDirectory (tree : FileTree) (place : List String) : Except FileFailure Unit :=
  match tree.entry? place with
  | some .directory => .ok ()
  | some _ => .error .notDirectory
  | none => .error .notFound

/-- Walk from a place along parts; the last place need not exist. -/
def walk (tree : FileTree) (place : List String) :
    List String → Except FileFailure (List String)
  | [] => .ok place
  | part :: parts =>
      match tree.checkDirectory place with
      | .error failure => .error failure
      | .ok () =>
          if part = "." then tree.walk place parts
          else if part = ".." then tree.walk place.dropLast parts
          else if maximalPartSize < part.utf8ByteSize then .error .nameTooLong
          else tree.walk (place ++ [part]) parts

/-- Refuse paths that no walk can start with. -/
def checkPath (path : String) : Except FileFailure Unit :=
  if path.contains '\x00' then .error .zeroInName
  else if path = "" then .error .notFound
  else if maximalPathSize < path.utf8ByteSize then .error .nameTooLong
  else .ok ()

/-- The place where the walk along a path starts. -/
def startOf (tree : FileTree) (path : String) : List String :=
  if FilePath.isAbsolute path then [] else tree.workingDirectory

/-- The existing place that a path leads to, with what stands there. -/
def find (tree : FileTree) (path : String) : Except FileFailure (List String × FileEntry) :=
  match checkPath path with
  | .error failure => .error failure
  | .ok () =>
      match tree.walk (tree.startOf path) (FilePath.parts path) with
      | .error failure => .error failure
      | .ok place =>
          match tree.entry? place with
          | none => .error .notFound
          | some .directory => .ok (place, .directory)
          | some entry =>
              if FilePath.endsWithSlash path then .error .notDirectory else .ok (place, entry)

def isPresent (tree : FileTree) (path : String) : Bool := (tree.find path).isOk

def canonical? (tree : FileTree) (path : String) : Option String :=
  match tree.find path with
  | .ok (place, _) => some (FilePath.ofParts place)
  | .error _ => none

/-- The text of the file that a path leads to. -/
def readText (tree : FileTree) (path : String) : Except FileFailure String :=
  match tree.find path with
  | .error failure => .error failure
  | .ok (_, .directory) => .error .isDirectory
  | .ok (_, .text contents) => .ok contents
  | .ok (_, .bytes) => .error .notText

/-- The place where a file can be written under a path. -/
def writablePlace (tree : FileTree) (path : String) : Except FileFailure (List String) :=
  match checkPath path with
  | .error failure => .error failure
  | .ok () =>
      match (FilePath.parts path).getLast? with
      | none => .error .isDirectory
      | some name =>
          match tree.walk (tree.startOf path) (FilePath.parts path).dropLast with
          | .error failure => .error failure
          | .ok parent =>
              match tree.checkDirectory parent with
              | .error failure => .error failure
              | .ok () =>
                  if FilePath.endsWithSlash path ∨ name = "." ∨ name = ".." then
                    .error .isDirectory
                  else if maximalPartSize < name.utf8ByteSize then .error .nameTooLong
                  else if tree.entry? (parent ++ [name]) = some .directory then
                    .error .isDirectory
                  else .ok (parent ++ [name])

/-- Make or overwrite the file that a path leads to. -/
def writeText (tree : FileTree) (path contents : String) : Except FileFailure FileTree :=
  match tree.writablePlace path with
  | .ok place => .ok (tree.put place (.text contents))
  | .error failure => .error failure

end FileTree

/-- A program on a file tree reads it and may change it. -/
instance : FileAccess (StateM FileTree) where
  workingDirectory := fun tree => (some (FilePath.ofParts tree.workingDirectory), tree)
  isPresent path := fun tree => (tree.isPresent path, tree)
  canonical path := fun tree => (tree.canonical? path, tree)
  readText path := fun tree => (tree.readText path, tree)
  writeText path contents := fun tree =>
    match tree.writeText path contents with
    | .ok changed => (.ok (), changed)
    | .error failure => (.error failure, tree)

end RowFunctions
