/-
Manifests turned into programs.

Linking puts positions in the place of ids. It succeeds when no function id is declared twice, every function is in a
listed package, and every id that is used is declared; otherwise it reports the first violation: repeated ids, then the
functions in their order (package before wrapper), the calls (caller before callee), the entry points, the test entry
points. The packages of all entry points count as the program's own modules.
-/
import CallAtlas.Manifest
import CallAtlas.PathPrefix
import CallAtlas.Text.Visible

namespace CallAtlas

/-- why a manifest cannot be linked -/
inductive LinkError where
  | duplicateFunction (id : String)
  | unknownPackage (function package : String)
  | unknownFunction (id : String)
  deriving DecidableEq, Repr

def LinkError.message : LinkError → String
  | .duplicateFunction id => "duplicate function id " ++ Text.quoted id
  | .unknownPackage function package =>
    "function " ++ Text.quoted function ++ " references unknown package " ++ Text.quoted package
  | .unknownFunction id => "unknown function " ++ Text.quoted id

namespace Manifest

/-- the first value that stands in a list a second time, given those already seen -/
def firstRepeat? (seen : List String) : List String → Option String
  | [] => none
  | id :: r => if id ∈ seen then some id else firstRepeat? (id :: seen) r

/-- no repeat is found exactly when there is none -/
theorem firstRepeat?_eq_none {seen ids : List String} :
    firstRepeat? seen ids = none ↔ ids.Nodup ∧ ∀ id ∈ ids, id ∉ seen := by
  induction ids generalizing seen with
  | nil => simp [firstRepeat?]
  | cons id r ih =>
    by_cases h : id ∈ seen
    · simp [firstRepeat?, h]
    · simp only [firstRepeat?, h, if_false, ih, List.nodup_cons, List.mem_cons, not_or]
      constructor
      · rintro ⟨hr, hseen⟩
        exact ⟨⟨fun hid => (hseen id hid).1 rfl, hr⟩, fun x hx => hx.elim (fun e => e ▸ h) fun hx => (hseen x hx).2⟩
      · rintro ⟨⟨hid, hr⟩, hseen⟩
        exact ⟨hr, fun x hx => ⟨fun e => hid (e ▸ hx), hseen x (.inr hx)⟩⟩

/-- ids in the order of their functions -/
def ids (m : Manifest) : List String :=
  m.functions.map ManifestFunction.id

/-- the function with an id -/
def lookup (m : Manifest) (id : String) : Except LinkError FunctionId :=
  match m.ids.findIdx? fun i => i = id with
  | some i => .ok i
  | none => .error (.unknownFunction id)

/-- the packages, each path once under its first name -/
def withPackages (m : Manifest) : Program :=
  m.packages.foldl (fun p k => (p.addPackage k.path (k.name.getD (lastSegment k.path))).1) {}

/-- a function with positions in the place of names -/
def linkFunction (m : Manifest) (p : Program) (f : ManifestFunction) : Except LinkError Function := do
  let package ← match p.packageByPath? f.package with
    | some id => .ok id
    | none => .error (.unknownPackage f.id f.package)
  let wraps ← match f.wraps with
    | some id => (m.lookup id).map some
    | none => .ok none
  return { name := f.name, package, receiver := f.receiver, synthetic := f.synthetic, wraps }

def linkCall (m : Manifest) (c : ManifestCall) : Except LinkError Call := do
  let caller ← m.lookup c.caller
  let callee ← m.lookup c.callee
  return { caller, callee, kind := c.kind, position := c.position }

/-- plain functions named `main` in packages named `main` -/
def mains (p : Program) : List FunctionId :=
  p.functions.zipIdx.filterMap fun (f, id) =>
    if f.name = "main" ∧ f.receiver = none ∧ (p.packages[f.package]?.map Package.name) = some "main" then some id
    else none

/-- the program that a manifest describes -/
def link (m : Manifest) : Except LinkError Program := do
  let p := m.withPackages
  if let some id := firstRepeat? [] m.ids then throw (.duplicateFunction id)
  let functions ← m.functions.mapM (m.linkFunction p)
  let calls ← m.calls.mapM m.linkCall
  let p := { p with functions, calls }
  let entries ← match m.entryPoints with
    | some given => given.mapM m.lookup
    | none => .ok (mains p)
  let p := entries.foldl Program.addEntryPoint p
  let p := (← m.testEntryPoints.mapM m.lookup).foldl Program.addTestEntryPoint p
  let entryPaths := (p.entryPoints ++ p.testEntryPoints).filterMap fun f => (p.packageOf? f).map Package.path
  return (m.mainModule.toList ++ m.modules ++ entryPaths).foldl Program.addOwnModule p

end Manifest

end CallAtlas
