/-
From a program to its drawing.

`reduce` resolves the focus, then looks for a place to start from, which it asks for also when there is a focus, and
then reduces. `render` writes the reduced graph in the format of the settings and tells an empty graph from one with
nodes. The failures of a run have one type, `Failure`; `danglingId` is the use of an id that the program does not
have.
-/
import CallAtlas.Dot.Drawing
import CallAtlas.Focus
import CallAtlas.Listing
import CallAtlas.Source

namespace CallAtlas

/-- why a run fails -/
inductive Failure where
  | settings (e : SettingsError)
  | focus (e : FocusError)
  | load (e : LoadError)
  | entry (e : EntryError)
  | danglingId
  /-- the output file cannot be written -/
  | unwritable (path : String)
  deriving DecidableEq, Repr

def Failure.message : Failure → String
  | .settings e => e.message
  | .focus e => e.message
  | .load e => e.message
  | .entry e => e.message
  | .danglingId => "an id refers to nothing"
  | .unwritable path => "cannot write " ++ path

/-- what a run gives -/
inductive Rendering where
  | rendered (output : String)
  /-- the output for a graph without nodes -/
  | empty (output : String)
  deriving DecidableEq, Repr

namespace Rendering

def output : Rendering → String
  | rendered output => output
  | empty output => output

def isEmpty : Rendering → Bool
  | rendered _ => false
  | empty _ => true

end Rendering

namespace Analysis

/-- an id that has to exist -/
def existing {α : Type} : Option α → Except Failure α
  | some a => .ok a
  | none => .error .danglingId

/-- where reachability starts: the focus, or else the entries -/
def scope (focus : Option PackageId) (entries : List FunctionId) : Scope :=
  match focus with
  | some package => .focus package
  | none => .roots entries

/-- the graph that settings ask for -/
def reduce (p : Program) (s : Settings) : Except Failure Graph := do
  let focus ← ((Focus.resolve s.focus p.packages).result s.focus).mapError .focus
  let entries ← (p.entries s.tests).mapError .entry
  existing (p.reduce? (scope focus entries) s.filter s.grouping)

/-- a graph in the format of the settings -/
def text? (p : Program) (g : Graph) (s : Settings) : Option String :=
  match s.format with
  | .dot => Drawing.dot? p g s.grouping s.layout
  | .json => Listing.json? p g s.layout

/-- the output that settings ask for -/
def render (p : Program) (s : Settings) : Except Failure Rendering := do
  let g ← reduce p s
  let output ← existing (text? p g s)
  return if g.isEmpty then .empty output else .rendered output

/-- the output for a program that still has to be loaded -/
def run (program : Except LoadError Program) (s : Settings) : Except Failure Rendering := do
  render (← program.mapError .load) s

end Analysis

end CallAtlas
