/-
Where a program comes from.

A source is a manifest or an index, in a file. `Source.load` makes a program of the bytes of the file; a file that
cannot be read, or a manifest that is not text, is one kind of failure, contents of the wrong form another.
-/
import CallAtlas.Index.Decode
import CallAtlas.Manifest.Link

namespace CallAtlas

/-- the form in which a program is written -/
inductive Source where
  | manifest
  | index
  deriving DecidableEq, Repr

/-- why a program cannot be loaded -/
inductive LoadError where
  | unreadable (path : String)
  | malformedManifest (path : String)
  | malformedIndex (path : String)
  | link (e : LinkError)
  deriving DecidableEq, Repr

def LoadError.message : LoadError → String
  | .unreadable path => "failed to read " ++ path
  | .malformedManifest path => "malformed program manifest " ++ path
  | .malformedIndex path => "malformed SCIP index " ++ path
  | .link e => e.message

namespace Source

/-- the program in the text of a manifest -/
def loadManifest (path : String) (text : String) : Except LoadError Program :=
  match Manifest.ofText? text with
  | none => .error (.malformedManifest path)
  | some m => m.link.mapError .link

/-- the program in the bytes of a file; `none` stands for a file that cannot be read -/
def load (source : Source) (path : String) (bytes : Option (List UInt8)) : Except LoadError Program :=
  match source, bytes with
  | _, none => .error (.unreadable path)
  | .manifest, some bytes =>
    match String.fromUTF8? ⟨bytes.toArray⟩ with
    | none => .error (.unreadable path)
    | some text => loadManifest path text
  | .index, some bytes =>
    match Index.ofBytes? bytes with
    | none => .error (.malformedIndex path)
    | some decoded => .ok decoded.program

end Source

end CallAtlas
