/-
Programs in the making, with their packages indexed by path.

A store is a program together with an index that tells the package of a path, so that no path is looked for among all
packages. There are eight operations on it. Adding a package or a function hands out an id; only a package that does not
exist cannot be renamed.
-/
import CallAtlas.Program

namespace CallAtlas

/-- one operation on a store -/
inductive Operation where
  | addPackage (path name : String)
  | renamePackage (id : PackageId) (name : String)
  | addFunction (f : Function)
  | addCall (c : Call)
  | addEntryPoint (f : FunctionId)
  | addTestEntryPoint (f : FunctionId)
  | addOwnModule (path : String)
  | addLibraryModule (path : String)
  deriving DecidableEq, Repr

/-- a program and the index of its packages -/
structure Store where
  program : Program := {}
  /-- each path with its package, the last one registered first -/
  index : List (String × PackageId) := []
  deriving DecidableEq, Repr

namespace Store

/-- the package that the index has for a path -/
def packageByPath? (s : Store) (path : String) : Option PackageId :=
  s.index.lookup path

/-- registers a package; a path in the index keeps its id and its name -/
def addPackage (s : Store) (path name : String) : Store × PackageId :=
  match s.packageByPath? path with
  | some id => (s, id)
  | none =>
    let id := s.program.packages.length
    ({ program := { s.program with packages := s.program.packages ++ [⟨path, name⟩] }, index := (path, id) :: s.index },
      id)

/-- one operation, with the id that it hands out -/
def step? (s : Store) : Operation → Option (Store × Option Nat)
  | .addPackage path name =>
    let (s, id) := s.addPackage path name
    some (s, some id)
  | .renamePackage id name => (s.program.renamePackage? id name).map fun program => ({ s with program }, none)
  | .addFunction f =>
    let (program, id) := s.program.addFunction f
    some ({ s with program }, some id)
  | .addCall c => some ({ s with program := s.program.addCall c }, none)
  | .addEntryPoint f => some ({ s with program := s.program.addEntryPoint f }, none)
  | .addTestEntryPoint f => some ({ s with program := s.program.addTestEntryPoint f }, none)
  | .addOwnModule path => some ({ s with program := s.program.addOwnModule path }, none)
  | .addLibraryModule path => some ({ s with program := s.program.addLibraryModule path }, none)

/-- operations one after another on the empty store, with the ids that they hand out -/
def run? (ops : List Operation) : Option (Store × List (Option Nat)) :=
  ops.foldlM (fun (s, ids) op => (s.step? op).map fun (s, id) => (s, ids ++ [id])) ({}, [])

end Store

end CallAtlas
