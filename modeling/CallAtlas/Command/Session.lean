/-
One run of the program, from its arguments to its exit code.

A run goes through its stages in this order: settings, loading, focus, entries, reduction, output. It stops at the
first failure, with exit code 1, nothing on standard output and a diagnostic. Otherwise the drawing is delivered, to
the output file or to standard output, also when it is empty; an empty one gets a warning. A command line that cannot
be read is exit code 2. The files are reached through `FileAccess`. The current directory is needed only to search for
settings, and a run that has to search without one fails.
-/
import CallAtlas.Analysis
import CallAtlas.Command.Line
import CallAtlas.Settings.Discovery

namespace CallAtlas

/-- why a run on the command line fails -/
inductive SessionError where
  /-- the search for settings has nowhere to start -/
  | noDirectory
  | run (e : Failure)
  deriving DecidableEq, Repr

def SessionError.message : SessionError → String
  | .noDirectory => "cannot determine current directory"
  | .run e => e.message

/-- what a run leaves behind, its output file apart -/
structure Outcome where
  exit : Nat
  output : String := ""
  /-- the graph was empty -/
  warned : Bool := false
  diagnostic : Option String := none
  deriving DecidableEq, Repr

namespace Session

/-- name and version -/
def versionText : String := "callscope 0.1.0\n"

/-- how to use the program -/
def usageText : String :=
  "Usage: callscope [OPTIONS] <INPUT>\n"

variable {m : Type → Type} [Monad m]

/-- what settings give, its error as one of the session -/
def ofSettings {α : Type} (result : Except SettingsError α) : Except SessionError α :=
  result.mapError fun e => .run (.settings e)

/-- the layer of the settings file that an invocation names, or of the nearest one, or none -/
def fileLayer (files : FileAccess m) (directory : Option String) (i : Invocation) :
    m (Except SessionError Layer) := do
  match i.config, directory with
  | some path, _ => return ofSettings (← Discovery.load files path)
  | none, none => return .error .noDirectory
  | none, some directory =>
    return ofSettings ((← Discovery.discover files directory).map fun found => (found.map Prod.snd).getD {})

/-- the settings of an invocation -/
def settings (files : FileAccess m) (directory : Option String) (i : Invocation) :
    m (Except SessionError Settings) := do
  return (← fileLayer files directory i).bind fun layer => ofSettings (Settings.ofLayer (layer.merge i.layer))

/-- the rendering of an input -/
def rendering (files : FileAccess m) (i : Invocation) (input : String) (s : Settings) :
    m (Except Failure Rendering) := do
  let source := (i.inputFormat.getD .auto).source input
  return Analysis.run (source.load input (← files.read input)) s

/-- an outcome with a diagnostic and no output -/
def failed (warned : Bool) (e : SessionError) : Outcome :=
  { exit := 1, warned, diagnostic := some e.message }

/-- delivers a rendering -/
def deliver (files : FileAccess m) (i : Invocation) (r : Rendering) : m Outcome := do
  match i.output with
  | none => return { exit := 0, output := r.output, warned := r.isEmpty }
  | some path =>
    if ← files.write path r.output then return { exit := 0, warned := r.isEmpty }
    return failed r.isEmpty (.run (.unwritable path))

/-- a run over an input -/
def runInput (files : FileAccess m) (directory : Option String) (i : Invocation) (input : String) : m Outcome := do
  match ← settings files directory i with
  | .error e => return failed false e
  | .ok s =>
    match ← rendering files i input s with
    | .error e => return failed false (.run e)
    | .ok r => deliver files i r

/-- a run with the given arguments in a directory; `none` stands for one that cannot be determined -/
def run (files : FileAccess m) (directory : Option String) (arguments : List String) : m Outcome :=
  match Request.ofArguments? arguments with
  | none => return { exit := 2 }
  | some .version => return { exit := 0, output := versionText }
  | some .help => return { exit := 0, output := usageText }
  | some (.run i) =>
    match i.input with
    | none => return { exit := 2 }
    | some input => runInput files directory i input

end Session

end CallAtlas
