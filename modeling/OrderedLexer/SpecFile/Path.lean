/-
  Names in paths.

  The parts of a path stand between slashes; empty parts and single points do not count.  The
  extension of a file is what stands behind the last point of its name, unless that point comes
  first.
-/

namespace OrderedLexer.SpecFile

/-- The parts of a path that count. -/
def pathParts (path : String) : List (List Char) :=
  (path.toList.splitOn '/').filter fun p => p != [] && p != ['.']

/-- The name of the file at a path; a path that goes up at its end names none. -/
def fileName? (path : String) : Option (List Char) :=
  match (pathParts path).getLast? with
  | some name => if name = ['.', '.'] then none else some name
  | none => none

/-- The extension of the file at a path. -/
def extension? (path : String) : Option (List Char) :=
  (fileName? path).bind fun name =>
    let extension := (name.reverse.takeWhile (· != '.')).reverse
    -- what stands before the point
    let stem := name.length - extension.length - 1
    if name.contains '.' && 0 < stem then some extension else none

end OrderedLexer.SpecFile
