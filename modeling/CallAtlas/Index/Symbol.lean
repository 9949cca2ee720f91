/-
Symbols of functions.

A symbol is a scheme, a manager, a package, a version and a path of descriptors, with one space between each two.
`FunctionSymbol.ofText?` takes the symbols of functions apart: those that are not local, name a package and end in a
method descriptor. The receiver is the innermost type around the method, and for a method of an `impl` block the type
named in its first bracket. Symbols of the crates that come with the toolchain are not told apart by namespace.
-/
import CallAtlas.Index.Descriptor
import CallAtlas.Text.Pieces

namespace CallAtlas

/-- what a program needs to know of a function's symbol -/
structure FunctionSymbol where
  crate : String
  spaces : List String
  receiver : Option String
  name : String
  deriving DecidableEq, Repr

namespace FunctionSymbol

/-- where a method stands, as its path is walked -/
structure Place where
  spaces : List String := []
  receiver : Option String := none
  /-- the last type was an `impl` block whose type has not been named yet -/
  inImpl : Bool := false
  deriving DecidableEq, Repr

/-- one step into a path -/
def Place.enter (p : Place) (d : Descriptor) : Place :=
  match d.kind with
  | .space => { p with spaces := p.spaces ++ [d.name], receiver := none }
  | .type => { p with receiver := some d.name, inImpl := d.name = "impl" }
  | .typeParameter => if p.inImpl then { p with receiver := some d.name, inImpl := false } else p
  | .method => { p with receiver := none }
  | _ => p

/-- the function that a crate's path leads to -/
def ofDescriptors? (crate : String) (ds : List Descriptor) : Option FunctionSymbol :=
  match ds.getLast? with
  | some ⟨.method, name⟩ =>
    let place := ds.dropLast.foldl Place.enter {}
    some ⟨crate, place.spaces, place.receiver, name⟩
  | _ => none

/-- the fields of a symbol; the last one may hold spaces -/
def fields? (symbol : String) : Option (String × List Char) :=
  match symbol.toList.splitOn ' ' with
  | _ :: _ :: package :: _ :: path :: more => some (String.ofList package, [' '].intercalate (path :: more))
  | _ => none

/-- what a symbol says of a function, if it is the symbol of one -/
def ofText? (symbol : String) : Option FunctionSymbol := do
  if "local ".toList.isPrefixOf symbol.toList then none
  let (package, path) ← fields? symbol
  if package = "." then none
  ofDescriptors? package (← descriptors? path)

/-- crates that come with the toolchain -/
def toolchainCrates : List String := ["std", "core", "alloc", "proc_macro", "test"]

def isToolchain (s : FunctionSymbol) : Bool :=
  toolchainCrates.contains s.crate

/-- import path of the package in which the function is defined -/
def packagePath (s : FunctionSymbol) : String :=
  if s.isToolchain || s.spaces.isEmpty then s.crate
  else s.crate ++ "/" ++ Text.joined '/' s.spaces

/-- short name of that package -/
def packageName (s : FunctionSymbol) : String :=
  if s.isToolchain then s.crate else s.spaces.getLast?.getD s.crate

/-- the `main` function at the root of a crate -/
def isEntryPoint (s : FunctionSymbol) : Bool :=
  !s.isToolchain && s.spaces.isEmpty && s.receiver.isNone && s.name = "main"

/-- a plain function with a test's name, or in a namespace of tests -/
def isTest (s : FunctionSymbol) : Bool :=
  !s.isToolchain && s.receiver.isNone
    && ("test_".toList.isPrefixOf s.name.toList || s.spaces.any (· = "tests"))

end FunctionSymbol

end CallAtlas
