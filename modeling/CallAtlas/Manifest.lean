/-
Program manifests as they are written.

A manifest lists packages, functions under ids of its own, calls between these ids, and where execution starts. It is
JSON text. Each record is an object with known fields, none twice, or an array of its fields in their order; fields that
have a default may be left out, in an array from the end only. `ofText?` gives the manifest that a text holds; what its
ids refer to is not looked at here.
-/
import CallAtlas.Json.Reader
import CallAtlas.Program

namespace CallAtlas

/-! ## Model -/

/-- a package; the name defaults to the last segment of the path -/
structure ManifestPackage where
  path : String
  name : Option String := none
  deriving DecidableEq, Repr

/-- a function under an id -/
structure ManifestFunction where
  id : String
  package : String
  name : String
  receiver : Option String := none
  synthetic : Bool := false
  /-- id of the function that a wrapper forwards to -/
  wraps : Option String := none
  deriving DecidableEq, Repr

/-- a call between two ids -/
structure ManifestCall where
  caller : String
  callee : String
  kind : CallKind := .static
  position : Option String := none
  deriving DecidableEq, Repr

/-- a program under ids of its own -/
structure Manifest where
  mainModule : Option String := none
  modules : List String := []
  packages : List ManifestPackage
  functions : List ManifestFunction
  calls : List ManifestCall := []
  /-- ids to start from; without them every `main` of a package named `main` is one -/
  entryPoints : Option (List String) := none
  testEntryPoints : List String := []
  deriving DecidableEq, Repr

namespace Manifest

/-! ## Records -/

/-- the values of the named fields; `none` is a field left out -/
def fields? (names : List String) : Json.Value → Option (List (Option Json.Value))
  | .object members =>
    let given := members.map Prod.fst
    if given.Nodup && given.all names.contains then some (names.map (List.lookup · members)) else none
  | .array items =>
    if items.length ≤ names.length then
      some (items.map some ++ List.replicate (names.length - items.length) none)
    else none
  | _ => none

/-- a field that may be left out -/
def withDefault {α : Type} (d : α) (read : Json.Value → Option α) : Option Json.Value → Option α
  | none => some d
  | some v => read v

/-- a value or null -/
def nullable {α : Type} (read : Json.Value → Option α) : Json.Value → Option (Option α)
  | .null => some none
  | v => (read v).map some

def string? : Json.Value → Option String
  | .string s => some s
  | _ => none

def bool? : Json.Value → Option Bool
  | .bool b => some b
  | _ => none

/-- an array of values of one kind -/
def list? {α : Type} (read : Json.Value → Option α) : Json.Value → Option (List α)
  | .array items => items.mapM read
  | _ => none

/-- a kind by its word, or as an object with the word as its only field and null as its value -/
def kind? : Json.Value → Option CallKind
  | .string s => CallKind.ofName? s
  | .object [(name, .null)] => CallKind.ofName? name
  | _ => none

def package? (v : Json.Value) : Option ManifestPackage := do
  let [path, name] ← fields? ["path", "name"] v | none
  return { path := ← path.bind string?, name := ← withDefault none (nullable string?) name }

def function? (v : Json.Value) : Option ManifestFunction := do
  let [id, package, name, receiver, synthetic, wraps] ←
    fields? ["id", "package", "name", "receiver", "synthetic", "wraps"] v | none
  return {
    id := ← id.bind string?
    package := ← package.bind string?
    name := ← name.bind string?
    receiver := ← withDefault none (nullable string?) receiver
    synthetic := ← withDefault false bool? synthetic
    wraps := ← withDefault none (nullable string?) wraps }

def call? (v : Json.Value) : Option ManifestCall := do
  let [caller, callee, kind, position] ← fields? ["caller", "callee", "kind", "position"] v | none
  return {
    caller := ← caller.bind string?
    callee := ← callee.bind string?
    kind := ← withDefault .static kind? kind
    position := ← withDefault none (nullable string?) position }

/-- the manifest that a value holds -/
def ofJson? (v : Json.Value) : Option Manifest := do
  let [mainModule, modules, packages, functions, calls, entryPoints, testEntryPoints] ←
    fields? ["module", "modules", "packages", "functions", "calls", "entry_points", "test_entry_points"] v | none
  return {
    mainModule := ← withDefault none (nullable string?) mainModule
    modules := ← withDefault [] (list? string?) modules
    packages := ← packages.bind (list? package?)
    functions := ← functions.bind (list? function?)
    calls := ← withDefault [] (list? call?) calls
    entryPoints := ← withDefault none (nullable (list? string?)) entryPoints
    testEntryPoints := ← withDefault [] (list? string?) testEntryPoints }

/-- the manifest that a text holds -/
def ofText? (s : String) : Option Manifest := do
  ofJson? (← Json.parse? s)

end Manifest

end CallAtlas
