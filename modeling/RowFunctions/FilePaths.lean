/-!
# File paths

A path is text whose parts are separated by slashes.  Empty parts and single
dots name nothing; a leading slash starts at the root.
-/

namespace RowFunctions

namespace FilePath

def isAbsolute (path : String) : Bool :=
  match path.toList with
  | '/' :: _ => true
  | _ => false

def endsWithSlash (path : String) : Bool := path.toList.getLast? == some '/'

/-- Split a list of characters at every slash, given the current part reversed. -/
def splitParts (current : List Char) : List Char → List String
  | [] => [String.ofList current.reverse]
  | '/' :: rest => String.ofList current.reverse :: splitParts [] rest
  | character :: rest => splitParts (character :: current) rest

def parts (path : String) : List String :=
  (splitParts [] path.toList).filter fun part => part != ""

/-- The name at the end of a path, if the path ends in a name. -/
def fileName? (path : String) : Option String :=
  match ((parts path).filter fun part => part != ".").getLast? with
  | some name => if name = ".." then none else some name
  | none => none

/-- The characters after the last dot, if a dot stands behind at least one other
character. -/
def afterLastDot? (name : List Char) : Option (List Char) :=
  match name.reverse.dropWhile (· != '.') with
  | _ :: _ :: _ => some (name.reverse.takeWhile (· != '.')).reverse
  | _ => none

/-- The extension of the name at the end of a path. -/
def extension? (path : String) : Option String :=
  match fileName? path with
  | some name => (afterLastDot? name.toList).map String.ofList
  | none => none

def join (directory name : String) : String :=
  if isAbsolute name then name
  else if directory = "" then name
  else if endsWithSlash directory then directory ++ name
  else directory ++ "/" ++ name

def ofParts (parts : List String) : String :=
  match parts with
  | [] => "/"
  | parts => String.join (parts.map fun part => "/" ++ part)

end FilePath

end RowFunctions
