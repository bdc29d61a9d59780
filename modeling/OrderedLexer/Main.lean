/-
  The program: runs a command line over the files that it names.
-/
import OrderedLexer.Command.Run

namespace OrderedLexer.Command

/-- The paths that a command line may read or write. -/
def namedPaths (args : List String) : List String :=
  match Request.parse? args with
  | some (.run (.tokenize spec input _ _)) => spec :: input.toList
  | some (.run (.normalize spec output)) => spec :: output.toList
  | some (.run (.generate spec output _)) => spec :: output.toList
  | _ => []

/-- The paths of the directories around a path, and the path itself. -/
def pathsAbove (path : String) : List String :=
  let ps := FileTree.parts path
  (List.range (ps.length + 1)).map fun n => "/".intercalate (ps.take n)

/-- Whether there is a directory at a path. -/
def isDirectory (path : String) : IO Bool := do
  try (← IO.FS.realPath path).isDir catch _ => return false

/-- Adds what stands at a path to a tree. -/
def addPath (t : FileTree) (path : String) : IO FileTree := do
  if ← isDirectory path then
    return { t with directories := FileTree.namesOf path :: t.directories }
  try return t.set (FileTree.namesOf path) (← IO.FS.readBinFile path) catch _ => return t

/-- The file that a command line writes. -/
def outputPath (args : List String) : Option String :=
  match Request.parse? args with
  | some (.run (.normalize _ output)) => output
  | some (.run (.generate _ output _)) => output
  | _ => none

/-- Runs a command line over the files of the working directory. -/
def execute (args : List String) : IO UInt32 := do
  let mut files : FileTree := {}
  for path in (namedPaths args).flatMap pathsAbove do
    if path != "" then files ← addPath files path
  let stdin ← match Request.parse? args with
    | some (.run (.tokenize _ none _ _)) => (← IO.getStdin).readBinToEnd
    | _ => pure ByteArray.empty
  let outcome := runArguments args files stdin
  if let some path := outputPath args then
    if let .ok names := files.target? path then
      if let some bytes := outcome.files.files.lookup names then
        IO.FS.writeBinFile path bytes
  (← IO.getStdout).putStr outcome.stdout
  (← IO.getStderr).putStr outcome.stderr
  return outcome.code.toUInt32

end OrderedLexer.Command

def main (args : List String) : IO UInt32 := OrderedLexer.Command.execute args
