/-
The package a run is about.

A focus is given as text. Blank is no focus; a text with a slash is an import path and is looked up as such; any other
text is a name first, and only if no package has that name a path of one segment. Several packages of one name are an
ambiguity, reported with all their paths in ascending order, never a guess.
-/
import CallAtlas.Ordered
import CallAtlas.Program
import CallAtlas.Text.Blank
import CallAtlas.Text.Visible

namespace CallAtlas

/-- what a focus text stands for -/
inductive Resolution where
  | unfocused
  | resolved (id : PackageId)
  /-- the paths of all packages with the name -/
  | ambiguous (paths : List String)
  | notFound
  deriving DecidableEq, Repr

/-- why a focus is refused -/
inductive FocusError where
  | notFound (focus : String)
  | ambiguous (focus : String) (paths : List String)
  deriving DecidableEq, Repr

def FocusError.message : FocusError → String
  | .notFound focus => "focus " ++ Text.quoted focus ++ " matches no package"
  | .ambiguous focus paths =>
    "found " ++ toString paths.length ++ " packages with name " ++ Text.quoted focus
      ++ ", use import path not name: " ++ ", ".intercalate paths

namespace Focus

/-- the first package with a path -/
def findByPath (path : String) (packages : List Package) : Option PackageId :=
  packages.findIdx? fun k => k.path = path

/-- a path, or nothing -/
def byPath (path : String) (packages : List Package) : Resolution :=
  match findByPath path packages with
  | some id => .resolved id
  | none => .notFound

/-- paths and ids of the packages with a name, in ascending order -/
def named (name : String) (packages : List Package) : List (String × PackageId) :=
  Ordered.ofList (Ordered.pairBefore Ordered.textBefore Ordered.natBefore)
    (packages.zipIdx.filterMap fun (k, id) => if k.name = name then some (k.path, id) else none)

/-- what a focus text stands for among the packages -/
def resolve (focus : String) (packages : List Package) : Resolution :=
  let focus := Text.trim focus
  if focus = "" then .unfocused
  else if focus.toList.contains '/' then byPath focus packages
  else
    match named focus packages with
    | [] => byPath focus packages
    | [(_, id)] => .resolved id
    | many => .ambiguous (many.map Prod.fst)

end Focus

/-- the focus package if there is one, an error when the text names none or several; `focus` is the text as given -/
def Resolution.result (focus : String) : Resolution → Except FocusError (Option PackageId)
  | .unfocused => .ok none
  | .resolved id => .ok (some id)
  | .ambiguous paths => .error (.ambiguous focus paths)
  | .notFound => .error (.notFound focus)

end CallAtlas
