/-!
# Directories

The files that the command line tool reads, by their names within a directory.  A
name leads from place to place: its parts stand between slashes, a single point
stays at the place, and two points lead to the directory around it.
-/

namespace ParserGraph.CommandLine

/-- Why a file cannot be read. -/
inductive FileError where
  | missing
  | isDirectory
  | notDirectory
  | nameTooLong
deriving DecidableEq, Repr

namespace FileError

/-- An error in words, with its number. -/
def message : FileError → String
  | .missing => "No such file or directory (os error 2)"
  | .isDirectory => "Is a directory (os error 21)"
  | .notDirectory => "Not a directory (os error 20)"
  | .nameTooLong => "File name too long (os error 36)"

end FileError

/-- Files with their texts. -/
abbrev Directory := List (String × String)

/-- A place that a name may lead to. -/
inductive Place where
  /-- In the directory, by the parts of a name within it. -/
  | within (parts : List String)
  /-- A directory around it. -/
  | around
  /-- Something else in a directory around it, of which nothing is known. -/
  | aside
  /-- By the parts of a name from the root on. -/
  | fromRoot (parts : List String)
deriving DecidableEq, Repr

/-- What is found at a place. -/
inductive Finding where
  | nothing
  | directory
  | file (text : String)
deriving DecidableEq, Repr

namespace Place

/-- The place of a part of a name in a directory. -/
def enter (place : Place) (part : String) : Place :=
  match place with
  | .within parts => .within (parts ++ [part])
  | .around | .aside => .aside
  | .fromRoot parts => .fromRoot (parts ++ [part])

/-- The directory around a place. -/
def leave : Place → Place
  | .within [] => .around
  | .within parts => .within parts.dropLast
  | .around | .aside => .around
  | .fromRoot parts => .fromRoot parts.dropLast

end Place

namespace Directory

/-- The directories that every system has at its root. -/
def rootDirectories : List String :=
  ["bin", "dev", "etc", "home", "lib", "opt", "proc", "root", "run", "sbin", "sys", "tmp", "usr",
   "var"]

def parts (name : String) : List String :=
  (name.splitOn "/").filter fun part => part != "" && part != "."

def find (directory : Directory) : Place → Finding
  | .within path =>
      match directory.find? fun file => parts file.1 == path with
      | some file => .file file.2
      | none =>
          if path.isEmpty || directory.any fun file => path.isPrefixOf (parts file.1) then
            .directory
          else
            .nothing
  | .around => .directory
  | .aside => .nothing
  | .fromRoot path =>
      match path with
      | [] => .directory
      | [name] => if rootDirectories.contains name then .directory else .nothing
      | ["dev", "null"] => .file ""
      | _ => .nothing

/-- The most bytes of a part of a name. -/
def partLimit : Nat := 255

/-- The most bytes of a name. -/
def nameLimit : Nat := 4095

/-- A part of a name leads on from a place, which has to be a directory. -/
def follow (directory : Directory) (place : Place) (part : String) : Except FileError Place :=
  match directory.find place with
  | .nothing => .error .missing
  | .file _ => .error .notDirectory
  | .directory =>
      if part = "" ∨ part = "." then .ok place
      else if part = ".." then .ok place.leave
      else if partLimit < part.utf8ByteSize then .error .nameTooLong
      else .ok (place.enter part)

def read (directory : Directory) (name : String) : Except FileError String := do
  if nameLimit < name.utf8ByteSize then
    throw .nameTooLong
  else if name.isEmpty then
    throw .missing
  else
    let start : Place := if name.startsWith "/" then .fromRoot [] else .within []
    let place ← (name.splitOn "/").foldlM directory.follow start
    match directory.find place with
    | .nothing => throw .missing
    | .directory => throw .isDirectory
    | .file text => pure text

/-- The directory after files were written, each in the place of one of its name. -/
def write (directory files : Directory) : Directory :=
  (directory.filter fun file => !files.any fun written => written.1 == file.1) ++ files

end Directory

end ParserGraph.CommandLine
