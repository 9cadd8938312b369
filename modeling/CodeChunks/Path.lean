/-!
# Names and extensions of paths

A path is a sequence of components between slashes; empty components and single dots do not
count. Its file name is the last component unless that is a double dot. The extension is what
follows the last dot of the file name, where a dot that opens the name does not count.
-/

namespace CodeChunks.Path

/-- The components that count. -/
def components (path : String) : List (List Char) :=
  (path.toList.splitOn '/').filter fun part => part != [] && part != ['.']

def fileName? (path : String) : Option String :=
  match (components path).getLast? with
  | none => none
  | some name => if name == ['.', '.'] then none else some (String.ofList name)

/-- What follows the last dot of a name, where something must stand before that dot. -/
def extensionOf? (name : List Char) : Option (List Char) :=
  let tail := (name.reverse.takeWhile (· != '.')).reverse
  if name.length ≤ tail.length + 1 then none else some tail

def extension? (path : String) : Option String :=
  (fileName? path).bind fun name => (extensionOf? name.toList).map String.ofList

end CodeChunks.Path
