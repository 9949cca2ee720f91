/-
Paths of files, as text, and what the program asks of the files at them.

A path is kept as it was given: nothing is resolved and no `..` is taken out. `ancestors` lists an absolute path and the
directories that enclose it, innermost first, by leaving out its last segment again and again. Empty segments and single
dots carry no meaning, so leaving out a segment leaves them out too.

Three questions about a path are enough: whether it is a regular file, what is in it, and whether a text could be
written there. `FileAccess` answers them in any monad, so that the same program runs over real files and over a file
tree that is a value.
-/
import CallAtlas.Text.Pieces

namespace CallAtlas

/-- access to files by their paths -/
structure FileAccess (m : Type → Type) where
  /-- the path leads to a regular file -/
  isFile : String → m Bool
  /-- what is in a file, if it can be read -/
  read : String → m (Option (List UInt8))
  /-- writes a text to a file, and whether that worked -/
  write : String → String → m Bool

namespace Path

/-- a segment that stays in the same directory -/
def isIdle (segment : String) : Bool := segment = "" || segment = "."

/-- an absolute path with its segments in reverse -/
def ofReversed (segments : List String) : String :=
  "/" ++ Text.joined '/' segments.reverse

/-- the segments of an absolute path in reverse -/
def reversed (path : String) : List String :=
  ((Text.pieces '/' path).drop 1).reverse

/-- the directories that enclose a path with the given segments in reverse -/
def enclosing : List String → List String
  | [] => []
  | _ :: r => ofReversed (r.dropWhile isIdle) :: enclosing (r.dropWhile isIdle)
termination_by segments => segments.length
decreasing_by
  have := (List.dropWhile_sublist isIdle (l := r)).length_le
  simp only [List.length_cons]
  omega

/-- an absolute path and the directories that enclose it, innermost first -/
def ancestors (path : String) : List String :=
  path :: enclosing ((reversed path).dropWhile isIdle)

/-- a name inside a directory -/
def join (directory name : String) : String :=
  if directory.toList.getLast? = some '/' then directory ++ name else directory ++ "/" ++ name

/-- the last segment with a meaning, unless it leads upwards -/
def fileName? (path : String) : Option String :=
  match (Text.pieces '/' path).reverse.dropWhile isIdle with
  | [] => none
  | name :: _ => if name = ".." then none else some name

/-- what follows the last dot of the file name; a dot in front is no such dot -/
def extension? (path : String) : Option String := do
  let name ← fileName? path
  match (Text.pieces '.' name).reverse with
  | [] | [_] | [_, ""] => none
  | extension :: _ => some extension

end Path

end CallAtlas
