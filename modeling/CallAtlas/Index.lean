/-
Indexes of source code, and the programs they describe.

An index lists documents, and a document lists the occurrences of symbols in it, some of them definitions.
`Index.program` reads it twice. Definitions come first: each function symbol becomes a function, the crates with a
definition are the program's own, `main` at the root of a crate is an entry point, and tests are test entry points. Then
every other occurrence of a function symbol inside the body of a definition of the same document becomes a call from the
innermost such definition. References outside all bodies leave no trace.
-/
import CallAtlas.Index.Span
import CallAtlas.Index.Symbol
import CallAtlas.Program

namespace CallAtlas

/-! ## Model -/

/-- a place where a symbol stands -/
structure Occurrence where
  symbol : String
  range : List Int := []
  /-- the range of the whole definition, body included -/
  enclosingRange : List Int := []
  /-- a set of bits; the lowest one marks a definition -/
  roles : Int := 0
  deriving DecidableEq, Repr

structure Document where
  path : String := ""
  occurrences : List Occurrence := []
  deriving DecidableEq, Repr

structure Index where
  documents : List Document := []
  deriving DecidableEq, Repr

/-- the occurrence defines its symbol -/
def Occurrence.isDefinition (o : Occurrence) : Bool :=
  o.roles % 2 ≠ 0

/-- the body of a definition: its enclosing range, or else its own -/
def Occurrence.body? (o : Occurrence) : Option Span :=
  Span.ofRange? o.enclosingRange <|> Span.ofRange? o.range

namespace Index

/-- a program in the making -/
structure Draft where
  program : Program := {}
  /-- the symbols of the functions, in the order of the functions -/
  symbols : List String := []
  /-- crates outside the toolchain that have a function -/
  crates : List String := []
  /-- crates outside the toolchain that have a definition -/
  ownCrates : List String := []
  deriving DecidableEq, Repr

/-- a definition and its body -/
structure Definition where
  function : FunctionId
  body : Span
  deriving DecidableEq, Repr

/-- the function of a symbol, registered when it is new -/
def Draft.intern (d : Draft) (symbol : String) (s : FunctionSymbol) : Draft × FunctionId :=
  match d.symbols.findIdx? fun x => x = symbol with
  | some id => (d, id)
  | none =>
    let (program, package) := d.program.addPackage s.packagePath s.packageName
    let (program, id) := program.addFunction { name := s.name, package, receiver := s.receiver }
    let crates := if s.isToolchain then d.crates else addNew d.crates s.crate
    ({ d with program, symbols := d.symbols ++ [symbol], crates }, id)

/-- a draft with a definition of an interned function -/
def Draft.markDefined (d : Draft) (s : FunctionSymbol) (id : FunctionId) : Draft :=
  let ownCrates := if s.isToolchain then d.ownCrates else addNew d.ownCrates s.crate
  let p := d.program
  let p := if s.isEntryPoint then p.addEntryPoint id else p
  let p :=
    if s.isEntryPoint then
      ((p.functions[id]?).bind fun f => p.renamePackage? f.package "main").getD p
    else p
  let p := if s.isTest then p.addTestEntryPoint id else p
  { d with program := p, ownCrates }

/-- one occurrence on the first reading, with the definitions of its document so far -/
def Draft.define (state : Draft × List Definition) (o : Occurrence) : Draft × List Definition :=
  if o.isDefinition then
    match FunctionSymbol.ofText? o.symbol with
    | none => state
    | some s =>
      let (d, id) := state.1.intern o.symbol s
      let d := d.markDefined s id
      match o.body? with
      | none => (d, state.2)
      | some body => (d, state.2 ++ [⟨id, body⟩])
  else state

/-- the position of a call: the path of its document and its line, counted from one -/
def positionText (path : String) (span : Span) : String :=
  path ++ ":" ++ toString (clamp32 (span.start.1 + 1))

/-- one occurrence on the second reading -/
def Draft.refer (definitions : List Definition) (path : String) (d : Draft) (o : Occurrence) : Draft :=
  if o.isDefinition then d
  else
    match FunctionSymbol.ofText? o.symbol, Span.ofRange? o.range with
    | some s, some span =>
      match innermost Definition.body (definitions.filter fun x => x.body.contains span) with
      | none => d
      | some caller =>
        let (d, callee) := d.intern o.symbol s
        { d with
          program := d.program.addCall
            { caller := caller.function, callee, position := some (positionText path span) } }
    | _, _ => d

/-- the first reading of a document, with the definitions of the documents so far -/
def Draft.readDefinitions (state : Draft × List (List Definition)) (doc : Document) :
    Draft × List (List Definition) :=
  let (d, definitions) := doc.occurrences.foldl Draft.define (state.1, [])
  (d, state.2 ++ [definitions])

/-- the second reading of a document -/
def Draft.readReferences (d : Draft) (doc : Document × List Definition) : Draft :=
  doc.1.occurrences.foldl (Draft.refer doc.2 doc.1.path) d

/-- the program of a draft, with its modules -/
def Draft.finish (d : Draft) : Program :=
  let libraries := d.crates.filter fun c => !d.ownCrates.contains c
  let p := libraries.foldl Program.addLibraryModule d.program
  d.ownCrates.foldl Program.addOwnModule p

/-- the program that an index describes -/
def program (index : Index) : Program :=
  let (d, definitions) := index.documents.foldl Draft.readDefinitions ({}, [])
  ((index.documents.zip definitions).foldl Draft.readReferences d).finish

end Index

end CallAtlas
