/-
Where a settings file is found.

A run takes its settings from the nearest file named `callscope.toml`: in the directory where it starts, or in the
innermost directory around it that has one. Only a regular file counts. A start that is itself a regular file stands for
its directory. The nearest file is the one that is read, and if it cannot be read no other is looked for.
-/
import CallAtlas.Files.Path
import CallAtlas.Settings.Document

namespace CallAtlas.Discovery

/-- name of a settings file -/
def fileName : String := "callscope.toml"

/-- the first of some paths that is a regular file -/
def firstFile {m : Type → Type} [Monad m] (files : FileAccess m) : List String → m (Option String)
  | [] => return none
  | path :: r => do
    if ← files.isFile path then return some path
    firstFile files r

/-- the nearest settings file, seen from an absolute path -/
def nearest {m : Type → Type} [Monad m] (files : FileAccess m) (start : String) : m (Option String) := do
  let directories := if ← files.isFile start then (Path.ancestors start).drop 1 else Path.ancestors start
  firstFile files (directories.map fun directory => Path.join directory fileName)

/-- the layer in a file -/
def load {m : Type → Type} [Monad m] (files : FileAccess m) (path : String) : m (Except SettingsError Layer) := do
  return Layer.ofFile path (← files.read path)

/-- the nearest settings file and its layer -/
def discover {m : Type → Type} [Monad m] (files : FileAccess m) (start : String) :
    m (Except SettingsError (Option (String × Layer))) := do
  match ← nearest files start with
  | none => return .ok none
  | some path => return (← load files path).map fun layer => some (path, layer)

end CallAtlas.Discovery
