/-
The program on the command line.

`main` runs a session over the files of the system and passes on what it leaves behind: the drawing to standard output,
the warning and the diagnostic to standard error, and the exit code.
-/
import CallAtlas.Command.Session

namespace CallAtlas

/-- the result of an action, or nothing if the action fails -/
def attempt {α : Type} (action : IO α) : IO (Option α) := do
  try return some (← action) catch _ => return none

/-- the files of the system -/
def systemFiles : FileAccess IO where
  isFile path := do
    let found ← attempt do (← IO.currentDir) / path |>.metadata
    return found.any fun data => data.type == .file
  read path := do return (← attempt (IO.FS.readBinFile path)).map fun bytes => bytes.toList
  write path text := do return (← attempt (IO.FS.writeFile path text)).isSome

/-- passes on what a run leaves behind -/
def report (o : Outcome) : IO UInt32 := do
  IO.print o.output
  if o.warned then IO.eprintln "WARN reduced call graph is empty"
  if let some diagnostic := o.diagnostic then IO.eprintln ("callscope: " ++ diagnostic)
  return o.exit.toUInt32

end CallAtlas

def main (arguments : List String) : IO UInt32 := do
  let directory ← CallAtlas.attempt IO.currentDir
  CallAtlas.report (← CallAtlas.Session.run CallAtlas.systemFiles (directory.map toString) arguments)
