/-
  A tree of files, as a command finds and leaves it.

  Every file has a path of names; a directory is there if it is listed or a file is below it.  Paths
  are resolved from the working directory, or from the root if they start with a slash: `read?`
  gives the bytes of a file, and `target?` the names of a file that can be written, which `set`
  writes.
-/
import OrderedLexer.SpecFile.Error

namespace OrderedLexer.Command

open SpecFile (FileError)

/-- Files with their paths, and directories that need not hold any. -/
structure FileTree where
  files : List (List String × ByteArray) := []
  directories : List (List String) := []

namespace FileTree

/-- What stands at a path. -/
inductive Place where
  | file (bytes : ByteArray)
  | directory
  | missing

/-- The names of the root.  A name in a path holds no slash. -/
def root : List String := ["/"]

/-- The names of the directory that a path starts at. -/
def start (path : String) : List String := if path.toList.head? = some '/' then root else []

/-- Whether there is a directory with some names; the root, the working directory and what is above
    it are directories. -/
def isDirectory (t : FileTree) (names : List String) : Bool :=
  names = root || names.all (· = "..") || t.directories.contains names ||
    t.files.any fun f => names.isPrefixOf f.1

/-- What stands at a path of names. -/
def at_ (t : FileTree) (names : List String) : Place :=
  match t.files.lookup names with
  | some bytes => .file bytes
  | none => if t.isDirectory names then .directory else .missing

/-- The names of the directory around a directory; around the root there is only the root. -/
def parent (names : List String) : List String :=
  if names = root then root
  else if names.all (· = "..") then names ++ [".."]
  else names.dropLast

/-- The names that a path stands for, and what stands there.  The names of `here` lead to a
    directory.  Only a directory has something below it. -/
def walk (t : FileTree) (here : List String) : List String → Except FileError (List String × Place)
  | [] => .ok (here, t.at_ here)
  | part :: parts =>
    if part = "" ∨ part = "." then walk t here parts
    else if part = ".." then walk t (parent here) parts
    else
      let names := here ++ [part]
      match parts, t.at_ names with
      | [], place => .ok (names, place)
      | _, .directory => walk t names parts
      | _, .file _ => .error .notDirectory
      | _, .missing => .error .notFound

/-- The parts of a path between its slashes. -/
def parts (path : String) : List String := (path.toList.splitOn '/').map String.ofList

/-- The names that a path stands for, and what stands there. -/
def resolve (t : FileTree) (path : String) : Except FileError (List String × Place) :=
  if path = "" then .error .notFound else t.walk (start path) (parts path)

/-- The bytes of the file at a path. -/
def read? (t : FileTree) (path : String) : Except FileError ByteArray :=
  match t.resolve path with
  | .error e => .error e
  | .ok (_, .file bytes) => .ok bytes
  | .ok (_, .directory) => .error .isDirectory
  | .ok (_, .missing) => .error .notFound

/-- The text of the file at a path. -/
def readText? (t : FileTree) (path : String) : Except FileError String :=
  match t.read? path with
  | .error e => .error e
  | .ok bytes =>
    match String.fromUTF8? bytes with
    | some text => .ok text
    | none => .error .notUtf8

/-- Puts a file at a path of names, in place of one that is there. -/
def set (t : FileTree) (names : List String) (bytes : ByteArray) : FileTree :=
  { t with files := (names, bytes) :: t.files.filter fun f => f.1 != names }

/-- The names that a path stands for if nothing has to be there. -/
def namesOf (path : String) : List String :=
  (parts path).foldl (fun here part =>
    if part = "" ∨ part = "." then here
    else if part = ".." then parent here
    else here ++ [part]) (start path)

/-- The tree of files with the given paths. -/
def ofList (files : List (String × ByteArray)) : FileTree :=
  { files := files.map fun (path, bytes) => (namesOf path, bytes) }

/-- A path without the slashes at its end. -/
def dropSlashes (path : String) : String :=
  String.ofList (path.toList.reverse.dropWhile (· = '/')).reverse

/-- The names of the file to write at a path.  With a slash at its end, a path names a directory,
    whatever stands there. -/
def target? (t : FileTree) (path : String) : Except FileError (List String) :=
  if path.toList.getLast? = some '/' then
    match t.walk (start path) (parts (dropSlashes path)) with
    | .error e => .error e
    | .ok _ => .error .isDirectory
  else
    match t.resolve path with
    | .error e => .error e
    | .ok (_, .directory) => .error .isDirectory
    | .ok (names, _) => .ok names

end FileTree

end OrderedLexer.Command
