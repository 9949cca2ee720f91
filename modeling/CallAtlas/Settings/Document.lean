/-
Settings files.

A settings file is a flat document with the nine keys of a layer. Every key takes one kind of value and nothing is
converted, except that a whole number may stand for the node separation; an unknown key, a second mention and a value of
another kind make the whole file malformed.
-/
import CallAtlas.Settings
import CallAtlas.Toml

namespace CallAtlas.Layer

/-- a layer with one more key -/
def set? (layer : Layer) (entry : String × Toml.Value) : Option Layer :=
  match entry with
  | ("focus", .text s) => some { layer with focus := some s }
  | ("limit", .texts xs) => some { layer with limit := some xs }
  | ("ignore", .texts xs) => some { layer with ignore := some xs }
  | ("group", .texts xs) => some { layer with group := some xs }
  | ("nostd", .flag b) => some { layer with nostd := some b }
  | ("tests", .flag b) => some { layer with tests := some b }
  | ("minlen", .integer n) => if 0 ≤ n && n < 4294967296 then some { layer with minlen := some n.toNat } else none
  | ("nodesep", .number x) => some { layer with nodesep := some x }
  | ("nodesep", .integer n) => some { layer with nodesep := some (Binary64.ofInt n) }
  | ("format", .text s) => some { layer with format := some s }
  | _ => none

/-- the layer that a text holds -/
def ofText? (s : String) : Option Layer := do
  (← Toml.entries? s).foldlM set? {}

/-- the layer that a file holds; `none` stands for a file that cannot be read -/
def ofFile (path : String) (bytes : Option (List UInt8)) : Except SettingsError Layer :=
  match bytes.bind fun bytes => String.fromUTF8? ⟨bytes.toArray⟩ with
  | none => .error (.unreadable path)
  | some text =>
    match ofText? text with
    | none => .error (.malformed path)
    | some layer => .ok layer

theorem ofFile_of_text {bytes : List UInt8} {text : String} (h : String.fromUTF8? ⟨bytes.toArray⟩ = some text)
    (path : String) :
    ofFile path (some bytes) = (ofText? text).elim (.error (.malformed path)) .ok := by
  simp only [ofFile, Option.bind_some, h]
  cases ofText? text <;> rfl

end CallAtlas.Layer
