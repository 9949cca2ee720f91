/-
What an index says, and the program that is read from it.

The first half says it without a table of symbols: which symbols are functions of an index (`functionSymbols`), which
occurrences are calls (`callSites`), and from which definition a call comes (`Document.Selects`). `Draft.Reads` relates
a draft to what has been read so far. Each step of the two readings keeps it (`Reads.intern`, `Reads.markDefined`,
`Reads.addCall`), and so do whole documents.
- `draft_reads`: the draft of a whole index has read all its definitions and all its calls.
- `hasPackages_packages`: its packages are those of its function symbols, and a crate with a `main` function is named so.
- `program_reads`: the functions of the program are the function symbols, in their order, and its calls are the call
  sites, in theirs.
-/
import Mathlib.Data.List.Forall2
import Mathlib.Data.List.Induction
import CallAtlas.Index

namespace CallAtlas

/-! ## What an index says -/

/-- the symbol of the occurrence is the symbol of a function -/
def Occurrence.isFunction (o : Occurrence) : Bool :=
  (FunctionSymbol.ofText? o.symbol).isSome

/-- the occurrence defines a function -/
def Occurrence.definesFunction (o : Occurrence) : Bool :=
  o.isDefinition && o.isFunction

/-- functions that are defined, each with the body of its definition -/
def bodiesIn (occurrences : List Occurrence) : List (String × Span) :=
  (occurrences.filter Occurrence.definesFunction).filterMap fun o => o.body?.map (o.symbol, ·)

namespace Document

/-- functions that a document defines, each with the body of its definition -/
def bodies (doc : Document) : List (String × Span) :=
  bodiesIn doc.occurrences

/-- an occurrence is a call: it refers to a function from within the body of a definition -/
def isCall (doc : Document) (o : Occurrence) : Bool :=
  !o.isDefinition && o.isFunction && (Span.ofRange? o.range).any fun span => doc.bodies.any fun b => b.2.contains span

/-- a definition has a body around a span; no such body is smaller, and those before it are larger -/
def Selects (doc : Document) (span : Span) (b : String × Span) : Prop :=
  ∃ before after, doc.bodies.filter (fun b => b.2.contains span) = before ++ b :: after ∧
    (∀ x ∈ before, Position.lt b.2.extent x.2.extent = true) ∧
      ∀ x ∈ after, Position.lt x.2.extent b.2.extent = false

end Document

namespace Index

/-- definitions of functions, document by document -/
def definitionsIn (documents : List Document) : List Occurrence :=
  (documents.flatMap Document.occurrences).filter Occurrence.definesFunction

/-- calls, document by document -/
def callSitesIn (documents : List Document) : List (Document × Occurrence) :=
  documents.flatMap fun doc => (doc.occurrences.filter doc.isCall).map (doc, ·)

def definitions (index : Index) : List Occurrence :=
  definitionsIn index.documents

def callSites (index : Index) : List (Document × Occurrence) :=
  callSitesIn index.documents

/-- the symbols of the functions, each once: those that are defined and then those that are called, in the order in
which they first come -/
def functionSymbols (index : Index) : List String :=
  (index.definitions.map Occurrence.symbol ++ index.callSites.map fun site => site.2.symbol).eraseDups

/-- a function has the name, the receiver and the package path of its symbol, and nothing else -/
def Presents (paths : List String) (symbol : String) (f : Function) : Prop :=
  ∃ s, FunctionSymbol.ofText? symbol = some s ∧ paths[f.package]? = some s.packagePath ∧
    f = { name := s.name, package := f.package, receiver := s.receiver }

/-- a call leads from the function whose definition is selected to the function of the occurrence, and has its line -/
def IsCallAt (symbols : List String) (site : Document × Occurrence) (c : Call) : Prop :=
  ∃ span b, Span.ofRange? site.2.range = some span ∧ site.1.Selects span b ∧ symbols[c.caller]? = some b.1 ∧
    symbols[c.callee]? = some site.2.symbol ∧
      c = { caller := c.caller, callee := c.callee,
            position := some (site.1.path ++ ":" ++ toString (clamp32 (span.start.1 + 1))) }

/-- a list has the crates outside the toolchain that some symbols belong to -/
def HasCrates (crates symbols : List String) : Prop :=
  ∀ c, c ∈ crates ↔
    c ∉ FunctionSymbol.toolchainCrates ∧ ∃ symbol ∈ symbols, ∃ s, FunctionSymbol.ofText? symbol = some s ∧ s.crate = c

/-- a list has the functions of certain symbols that are defined, each once -/
def HasDefined (P : FunctionSymbol → Bool) (symbols : List String) (definitions : List Occurrence)
    (ids : List FunctionId) : Prop :=
  ids.Nodup ∧ ∀ f, f ∈ ids ↔
    ∃ o ∈ definitions, symbols[f]? = some o.symbol ∧ ∃ s, FunctionSymbol.ofText? o.symbol = some s ∧ P s = true

/-- some definition is the `main` function of a crate whose path this is -/
def IsRoot (definitions : List Occurrence) (path : String) : Prop :=
  ∃ o ∈ definitions, ∃ s, FunctionSymbol.ofText? o.symbol = some s ∧ s.isEntryPoint = true ∧ s.packagePath = path

/-- a list has the packages of some symbols, each path once; a package is named as one of its symbols names it, and a
crate with a `main` function is named `main` -/
structure HasPackages (packages : List Package) (symbols : List String) (definitions : List Occurrence) : Prop where
  nodup : (packages.map Package.path).Nodup
  paths : ∀ path, path ∈ packages.map Package.path ↔
    ∃ symbol ∈ symbols, ∃ s, FunctionSymbol.ofText? symbol = some s ∧ s.packagePath = path
  main : ∀ k ∈ packages, IsRoot definitions k.path → k.name = "main"
  name : ∀ k ∈ packages, ¬ IsRoot definitions k.path →
    ∃ symbol ∈ symbols, ∃ s, FunctionSymbol.ofText? symbol = some s ∧ s.packagePath = k.path ∧ s.packageName = k.name

/-! ## Drafts -/

/-- import paths of the packages of a draft -/
abbrev Draft.paths (d : Draft) : List String := d.program.packages.map Package.path

/-- what a draft has read: symbols in the order in which they were interned, definitions, and calls -/
structure Draft.Reads (d : Draft) (named : List String) (definitions : List Occurrence)
    (sites : List (Document × Occurrence)) : Prop where
  symbols : d.symbols = named.eraseDups
  defined : ∀ o ∈ definitions, o.symbol ∈ d.symbols
  packages : HasPackages d.program.packages d.symbols definitions
  functions : List.Forall₂ (Presents d.paths) d.symbols d.program.functions
  calls : List.Forall₂ (IsCallAt d.symbols) sites d.program.calls
  crates : HasCrates d.crates d.symbols
  ownCrates : HasCrates d.ownCrates (definitions.map Occurrence.symbol)
  entryPoints : HasDefined FunctionSymbol.isEntryPoint d.symbols definitions d.program.entryPoints
  testEntryPoints : HasDefined FunctionSymbol.isTest d.symbols definitions d.program.testEntryPoints
  ownModules : d.program.ownModules = []
  libraryModules : d.program.libraryModules = []

/-- a definition in the draft is the one of a function and its body -/
def Located (symbols : List String) (b : String × Span) (x : Definition) : Prop :=
  symbols[x.function]? = some b.1 ∧ x.body = b.2

/-! ### What the steps do -/

namespace Draft

variable {d : Draft} {symbol : String} {s : FunctionSymbol}

/-- a known symbol is looked up -/
theorem intern_of_mem (h : symbol ∈ d.symbols) (s : FunctionSymbol) :
    ∃ id, d.symbols[id]? = some symbol ∧ d.intern symbol s = (d, id) := by
  unfold intern
  split
  next id hid =>
    obtain ⟨hlt, hsymbol, -⟩ := List.findIdx?_eq_some_iff_getElem.1 hid
    exact ⟨id, by rw [List.getElem?_eq_getElem hlt, of_decide_eq_true hsymbol], rfl⟩
  next hnone => exact absurd (List.findIdx?_eq_none_iff.1 hnone symbol h) (by simp)

/-- a new symbol becomes a function at the end -/
theorem intern_of_not_mem (h : symbol ∉ d.symbols) (s : FunctionSymbol) :
    ∃ package, ((d.program.addPackage s.packagePath s.packageName).1.packages.map Package.path)[package]? =
        some s.packagePath ∧
      d.intern symbol s =
        ({ d with
            program := { d.program with
              packages := (d.program.addPackage s.packagePath s.packageName).1.packages
              functions := d.program.functions ++ [{ name := s.name, package, receiver := s.receiver }] }
            symbols := d.symbols ++ [symbol]
            crates := if s.isToolchain then d.crates else addNew d.crates s.crate },
          d.program.functions.length) := by
  obtain ⟨packages, package, hadd, hpath⟩ := d.program.addPackage_eq s.packagePath s.packageName
  rw [hadd]
  refine ⟨package, hpath, ?_⟩
  unfold intern
  split
  next id hid =>
    obtain ⟨hlt, hsymbol, -⟩ := List.findIdx?_eq_some_iff_getElem.1 hid
    exact absurd (of_decide_eq_true hsymbol ▸ List.getElem_mem hlt) h
  next =>
    rw [hadd]
    rfl

/-- a definition of a function whose package is known -/
theorem markDefined_eq {id : FunctionId} {f : Function} {k : Package} (hf : d.program.functions[id]? = some f)
    (hk : d.program.packages[f.package]? = some k) (s : FunctionSymbol) :
    d.markDefined s id =
      { d with
        program := { d.program with
          packages :=
            if s.isEntryPoint then d.program.packages.set f.package { k with name := "main" } else d.program.packages
          entryPoints := if s.isEntryPoint then addNew d.program.entryPoints id else d.program.entryPoints
          testEntryPoints := if s.isTest then addNew d.program.testEntryPoints id else d.program.testEntryPoints }
        ownCrates := if s.isToolchain then d.ownCrates else addNew d.ownCrates s.crate } := by
  have hrename : (d.program.addEntryPoint id).renamePackage? f.package "main" =
      some { d.program.addEntryPoint id with packages := d.program.packages.set f.package { k with name := "main" } } :=
    Program.renamePackage?_eq_some_iff.2 ⟨k, hk, rfl⟩
  have hf : (d.program.addEntryPoint id).functions[id]? = some f := hf
  unfold markDefined
  cases s.isEntryPoint with
  | false => cases s.isTest <;> rfl
  | true =>
    simp only [if_true, hf, Option.bind_some, hrename, Option.getD_some]
    cases s.isTest <;> rfl

end Draft

/-! ### What more symbols leave alone -/

section Extension

variable {symbols symbols' : List String} {definitions : List Occurrence} {P : FunctionSymbol → Bool}
  {ids : List FunctionId}

theorem Presents.mono {paths paths' : List String} {symbol : String} {f : Function} (h : Presents paths symbol f)
    (hle : paths <+: paths') : Presents paths' symbol f := by
  obtain ⟨s, hs, hpath, hf⟩ := h
  exact ⟨s, hs, getElem?_mono hle hpath, hf⟩

theorem IsCallAt.mono {site : Document × Occurrence} {c : Call} (h : IsCallAt symbols site c)
    (hle : symbols <+: symbols') : IsCallAt symbols' site c := by
  obtain ⟨span, b, hspan, hb, hcaller, hcallee, hc⟩ := h
  exact ⟨span, b, hspan, hb, getElem?_mono hle hcaller, getElem?_mono hle hcallee, hc⟩

theorem Located.mono {b : String × Span} {x : Definition} (h : Located symbols b x) (hle : symbols <+: symbols') :
    Located symbols' b x :=
  ⟨getElem?_mono hle h.1, h.2⟩

/-- a symbol that was there before has its old place -/
theorem HasDefined.mono (h : HasDefined P symbols definitions ids) (hle : symbols <+: symbols')
    (hnodup : symbols'.Nodup) (hdefined : ∀ o ∈ definitions, o.symbol ∈ symbols) :
    HasDefined P symbols' definitions ids := by
  refine ⟨h.1, fun f => ?_⟩
  have hplace : ∀ o ∈ definitions, symbols'[f]? = some o.symbol ↔ symbols[f]? = some o.symbol := by
    intro o ho
    refine ⟨fun hf => ?_, getElem?_mono hle⟩
    obtain ⟨i, hi⟩ := List.mem_iff_getElem?.1 (hdefined o ho)
    have hi' := getElem?_mono hle hi
    obtain rfl : i = f := (List.getElem?_inj (List.getElem?_eq_some_iff.1 hi').1 hnodup).1 (hi'.trans hf.symm)
    exact hi
  rw [h.2]
  refine exists_congr fun o => and_congr_right fun ho => ?_
  rw [hplace o ho]

/-- one definition more -/
theorem HasDefined.concat {o : Occurrence} {s : FunctionSymbol} {id : FunctionId}
    (h : HasDefined P symbols definitions ids) (hnodup : symbols.Nodup)
    (hs : FunctionSymbol.ofText? o.symbol = some s) (hid : symbols[id]? = some o.symbol) :
    HasDefined P symbols (definitions ++ [o]) (if P s then addNew ids id else ids) := by
  have hplace : ∀ f, symbols[f]? = some o.symbol ↔ f = id := fun f =>
    ⟨fun hf => (List.getElem?_inj (List.getElem?_eq_some_iff.1 hf).1 hnodup).1 (hf.trans hid.symm), fun hf => hf ▸ hid⟩
  have hlast : ∀ f, (∃ o' ∈ definitions ++ [o], symbols[f]? = some o'.symbol ∧
      ∃ s', FunctionSymbol.ofText? o'.symbol = some s' ∧ P s' = true) ↔ f ∈ ids ∨ f = id ∧ P s = true := by
    intro f
    rw [h.2]
    simp only [List.mem_append, List.mem_singleton, or_and_right, exists_or, exists_eq_left, hplace, hs,
      Option.some.injEq, exists_eq_left']
  cases hP : P s with
  | false =>
    refine ⟨h.1, fun f => ?_⟩
    rw [hlast, hP]
    simp
  | true =>
    refine ⟨nodup_addNew h.1, fun f => ?_⟩
    rw [hlast, hP]
    simp [mem_addNew]

/-- one symbol more -/
theorem HasCrates.concat {crates : List String} {symbol : String} {s : FunctionSymbol} (h : HasCrates crates symbols)
    (hs : FunctionSymbol.ofText? symbol = some s) :
    HasCrates (if s.isToolchain then crates else addNew crates s.crate) (symbols ++ [symbol]) := by
  intro c
  have hlast : (∃ symbol' ∈ symbols ++ [symbol], ∃ s', FunctionSymbol.ofText? symbol' = some s' ∧ s'.crate = c) ↔
      (∃ symbol' ∈ symbols, ∃ s', FunctionSymbol.ofText? symbol' = some s' ∧ s'.crate = c) ∨ s.crate = c := by
    simp only [List.mem_append, List.mem_singleton, or_and_right, exists_or, exists_eq_left, hs, Option.some.injEq,
      exists_eq_left']
  rw [hlast]
  by_cases htool : s.crate ∈ FunctionSymbol.toolchainCrates
  · rw [if_pos (by simpa [FunctionSymbol.isToolchain] using htool), h]
    refine and_congr_right fun hc => (or_iff_left ?_).symm
    rintro rfl
    exact hc htool
  · rw [if_neg (by simpa [FunctionSymbol.isToolchain] using htool), mem_addNew, h, and_or_left]
    refine or_congr_right ⟨?_, fun hc => hc.2.symm⟩
    rintro rfl
    exact ⟨htool, rfl⟩

/-- the package of one symbol more -/
theorem HasPackages.concat {packages : List Package} {symbol : String} {s : FunctionSymbol}
    (h : HasPackages packages symbols definitions) (hs : FunctionSymbol.ofText? symbol = some s)
    (hdefined : ∀ o ∈ definitions, o.symbol ∈ symbols) :
    HasPackages
      (if s.packagePath ∈ packages.map Package.path then packages else packages ++ [⟨s.packagePath, s.packageName⟩])
      (symbols ++ [symbol]) definitions := by
  have hlast : ∀ path, (∃ symbol' ∈ symbols ++ [symbol], ∃ s', FunctionSymbol.ofText? symbol' = some s' ∧
      s'.packagePath = path) ↔ path ∈ packages.map Package.path ∨ path = s.packagePath := by
    intro path
    rw [h.paths]
    simp only [List.mem_append, List.mem_singleton, or_and_right, exists_or, hs, Option.some.injEq, exists_eq_left',
      eq_comm]
  have hname : ∀ k ∈ packages, ¬ IsRoot definitions k.path → ∃ symbol' ∈ symbols ++ [symbol],
      ∃ s', FunctionSymbol.ofText? symbol' = some s' ∧ s'.packagePath = k.path ∧ s'.packageName = k.name := by
    intro k hk hroot
    obtain ⟨symbol', hmem, hsymbol⟩ := h.name k hk hroot
    exact ⟨symbol', List.mem_append_left _ hmem, hsymbol⟩
  split
  next hknown =>
    refine ⟨h.nodup, fun path => ?_, h.main, hname⟩
    rw [hlast]
    exact (or_iff_left_of_imp fun hpath => hpath ▸ hknown).symm
  next hnew =>
    constructor
    case nodup =>
      rw [List.map_append, List.map_singleton]
      have hnodup := nodup_addNew (a := s.packagePath) h.nodup
      rwa [addNew, if_neg hnew] at hnodup
    case paths =>
      intro path
      rw [hlast, List.map_append, List.map_singleton, List.mem_append, List.mem_singleton]
    case main =>
      intro k hk hroot
      rcases List.mem_append.1 hk with hk | hk
      · exact h.main k hk hroot
      · -- a crate whose `main` is defined has a package already
        obtain ⟨o, ho, s', hs', -, hpath⟩ := hroot
        obtain rfl := List.mem_singleton.1 hk
        exact absurd ((h.paths _).2 ⟨o.symbol, hdefined o ho, s', hs', hpath⟩) hnew
    case name =>
      intro k hk hroot
      rcases List.mem_append.1 hk with hk | hk
      · exact hname k hk hroot
      · obtain rfl := List.mem_singleton.1 hk
        exact ⟨symbol, by simp, s, hs, rfl, rfl⟩

/-- the package of one definition more -/
theorem HasPackages.define {packages : List Package} {o : Occurrence} {s : FunctionSymbol} {i : PackageId}
    {k : Package} (h : HasPackages packages symbols definitions) (hs : FunctionSymbol.ofText? o.symbol = some s)
    (hk : packages[i]? = some k) (hpath : k.path = s.packagePath) :
    HasPackages (if s.isEntryPoint then packages.set i { k with name := "main" } else packages) symbols
      (definitions ++ [o]) := by
  have hroot : ∀ path, IsRoot (definitions ++ [o]) path ↔
      IsRoot definitions path ∨ s.isEntryPoint = true ∧ path = k.path := by
    intro path
    simp only [IsRoot, List.mem_append, List.mem_singleton, or_and_right, exists_or, hs, Option.some.injEq,
      exists_eq_left', hpath, eq_comm]
  cases hentry : s.isEntryPoint with
  | false =>
    have hsame : ∀ path, IsRoot (definitions ++ [o]) path ↔ IsRoot definitions path := by simp [hroot, hentry]
    exact ⟨h.nodup, h.paths, fun k' hk' hk'root => h.main k' hk' ((hsame _).1 hk'root),
      fun k' hk' hk'root => h.name k' hk' fun hold => hk'root ((hsame _).2 hold)⟩
  | true =>
    simp only [if_true]
    -- a package is the one that is renamed, or it is an old one with another path
    have hcases : ∀ k' ∈ packages.set i { k with name := "main" },
        k' = { k with name := "main" } ∨ k' ∈ packages ∧ k'.path ≠ k.path := by
      intro k' hk'
      obtain ⟨j, hj⟩ := List.mem_iff_getElem?.1 hk'
      rw [List.getElem?_set] at hj
      split at hj
      next heq =>
        rw [if_pos (List.getElem?_eq_some_iff.1 hk).1] at hj
        exact Or.inl (Option.some.inj hj).symm
      next hne =>
        refine Or.inr ⟨List.mem_of_getElem? hj, fun hsame => hne ?_⟩
        have hi : (packages.map Package.path)[i]? = some k.path := by rw [List.getElem?_map, hk, Option.map_some]
        have hj : (packages.map Package.path)[j]? = some k.path := by
          rw [List.getElem?_map, hj, Option.map_some, hsame]
        exact (List.getElem?_inj (List.getElem?_eq_some_iff.1 hi).1 h.nodup).1 (hi.trans hj.symm)
    constructor
    case nodup => exact (Program.paths_rename hk "main").symm ▸ h.nodup
    case paths => exact fun path => (Program.paths_rename hk "main").symm ▸ h.paths path
    case main =>
      intro k' hk' hk'root
      rcases hcases k' hk' with rfl | ⟨hold, hne⟩
      · rfl
      · exact h.main k' hold (((hroot _).1 hk'root).resolve_right fun hlast => hne hlast.2)
    case name =>
      intro k' hk' hk'root
      rcases hcases k' hk' with rfl | ⟨hold, -⟩
      · exact absurd ((hroot k.path).2 (Or.inr ⟨hentry, rfl⟩)) hk'root
      · exact h.name k' hold fun hk'old => hk'root ((hroot _).2 (Or.inl hk'old))

end Extension

/-! ### What each step reads -/

namespace Draft.Reads

variable {d : Draft} {named : List String} {definitions : List Occurrence} {sites : List (Document × Occurrence)}
  {symbol : String} {s : FunctionSymbol}

theorem nodup (h : d.Reads named definitions sites) : d.symbols.Nodup :=
  h.symbols ▸ nodup_eraseDups named

/-- what was interned before keeps its place -/
theorem prefix_symbols {e : Draft} {more : List String} {definitions' : List Occurrence}
    {sites' : List (Document × Occurrence)} (h : d.Reads named definitions sites)
    (he : e.Reads (named ++ more) definitions' sites') : d.symbols <+: e.symbols := by
  rw [h.symbols, he.symbols, List.eraseDups_append]
  exact List.prefix_append _ _

theorem empty : Draft.Reads {} [] [] [] where
  symbols := by simp
  defined := by simp
  packages := ⟨List.nodup_nil, by simp, by simp, by simp⟩
  functions := .nil
  calls := .nil
  crates c := by simp
  ownCrates c := by simp
  entryPoints := ⟨List.nodup_nil, by simp⟩
  testEntryPoints := ⟨List.nodup_nil, by simp⟩
  ownModules := rfl
  libraryModules := rfl

/-- the function of a symbol is at its place once the symbol is interned -/
theorem intern (h : d.Reads named definitions sites) (hs : FunctionSymbol.ofText? symbol = some s) :
    (d.intern symbol s).1.Reads (named ++ [symbol]) definitions sites ∧
      (d.intern symbol s).1.symbols[(d.intern symbol s).2]? = some symbol := by
  by_cases hmem : symbol ∈ d.symbols
  · obtain ⟨id, hid, heq⟩ := Draft.intern_of_mem hmem s
    rw [heq]
    have hsymbols : d.symbols = (named ++ [symbol]).eraseDups := by
      rw [eraseDups_concat, ← h.symbols, addNew, if_pos hmem]
    exact ⟨{ h with symbols := hsymbols }, hid⟩
  · obtain ⟨package, hpackage, heq⟩ := Draft.intern_of_not_mem hmem s
    rw [heq]
    have hpaths := d.program.paths_addPackage s.packagePath s.packageName ▸ prefix_addNew d.paths s.packagePath
    have hle : d.symbols <+: d.symbols ++ [symbol] := List.prefix_append _ _
    have hsymbols : d.symbols ++ [symbol] = (named ++ [symbol]).eraseDups := by
      rw [eraseDups_concat, ← h.symbols, addNew, if_neg hmem]
    have hnodup : (d.symbols ++ [symbol]).Nodup := hsymbols ▸ nodup_eraseDups _
    have hlength : d.symbols.length = d.program.functions.length := h.functions.length_eq
    refine ⟨?_, ?_⟩
    · constructor
      case symbols => exact hsymbols
      case defined => exact fun o ho => List.mem_append_left _ (h.defined o ho)
      case packages => exact d.program.packages_addPackage _ _ ▸ h.packages.concat hs h.defined
      case functions =>
        exact List.rel_append (h.functions.imp fun _ _ hf => hf.mono hpaths) (.cons ⟨s, hs, hpackage, rfl⟩ .nil)
      case calls => exact h.calls.imp fun _ _ hc => hc.mono hle
      case crates => exact h.crates.concat hs
      case ownCrates => exact h.ownCrates
      case entryPoints => exact h.entryPoints.mono hle hnodup h.defined
      case testEntryPoints => exact h.testEntryPoints.mono hle hnodup h.defined
      case ownModules => exact h.ownModules
      case libraryModules => exact h.libraryModules
    · simp [← hlength]

/-- the function of a symbol has a package -/
theorem exists_package {id : FunctionId} (h : d.Reads named definitions sites)
    (hs : FunctionSymbol.ofText? symbol = some s) (hid : d.symbols[id]? = some symbol) :
    ∃ f k, d.program.functions[id]? = some f ∧ d.program.packages[f.package]? = some k ∧ k.path = s.packagePath := by
  obtain ⟨hlt, hsymbol⟩ := List.getElem?_eq_some_iff.1 hid
  have hlt' : id < d.program.functions.length := h.functions.length_eq ▸ hlt
  obtain ⟨s', hs', hpath, -⟩ := h.functions.get hlt hlt'
  rw [List.get_eq_getElem, hsymbol] at hs'
  obtain rfl := Option.some.inj (hs.symm.trans hs')
  rw [List.getElem?_map] at hpath
  obtain ⟨k, hk, hpath⟩ := Option.map_eq_some_iff.1 hpath
  exact ⟨_, k, List.getElem?_eq_getElem hlt', hk, hpath⟩

theorem markDefined {o : Occurrence} {id : FunctionId} (h : d.Reads named definitions sites)
    (hs : FunctionSymbol.ofText? o.symbol = some s) (hid : d.symbols[id]? = some o.symbol) :
    (d.markDefined s id).Reads named (definitions ++ [o]) sites ∧ (d.markDefined s id).symbols = d.symbols := by
  obtain ⟨f, k, hf, hk, hpath⟩ := h.exists_package hs hid
  rw [Draft.markDefined_eq hf hk s]
  have hmarked := h.packages.define hs hk hpath
  refine ⟨?_, rfl⟩
  constructor
  case symbols => exact h.symbols
  case defined =>
    exact List.forall_mem_append.2 ⟨h.defined, by simpa using List.mem_of_getElem? hid⟩
  case packages => exact hmarked
  case functions =>
    refine h.functions.imp fun _ _ hpresents => ?_
    dsimp only [Draft.paths]
    split
    · rwa [Program.paths_rename hk]
    · exact hpresents
  case calls => exact h.calls
  case crates => exact h.crates
  case ownCrates =>
    rw [List.map_append]
    exact h.ownCrates.concat hs
  case entryPoints => exact h.entryPoints.concat h.nodup hs hid
  case testEntryPoints => exact h.testEntryPoints.concat h.nodup hs hid
  case ownModules => exact h.ownModules
  case libraryModules => exact h.libraryModules

theorem addCall {site : Document × Occurrence} {c : Call} (h : d.Reads named definitions sites)
    (hc : IsCallAt d.symbols site c) :
    Draft.Reads { d with program := d.program.addCall c } named definitions (sites ++ [site]) :=
  { h with calls := List.rel_append h.calls (.cons hc .nil) }

/-- the crates become the modules of the program -/
theorem finish_eq (h : d.Reads named definitions sites) :
    d.finish =
      { d.program with
        libraryModules := (d.crates.filter fun c => !d.ownCrates.contains c).foldl addNew []
        ownModules := d.ownCrates.foldl addNew [] } := by
  simp only [finish, Program.foldl_addLibraryModule, Program.foldl_addOwnModule, h.ownModules, h.libraryModules]

end Draft.Reads

/-! ### Documents -/

theorem bodiesIn_append (os os' : List Occurrence) : bodiesIn (os ++ os') = bodiesIn os ++ bodiesIn os' := by
  simp [bodiesIn]

theorem definitionsIn_concat (docs : List Document) (doc : Document) :
    definitionsIn (docs ++ [doc]) = definitionsIn docs ++ doc.occurrences.filter Occurrence.definesFunction := by
  simp [definitionsIn]

theorem Draft.define_of_definesFunction {o : Occurrence} {s : FunctionSymbol} (hdef : o.isDefinition = true)
    (hs : FunctionSymbol.ofText? o.symbol = some s) (state : Draft × List Definition) :
    Draft.define state o =
      ((state.1.intern o.symbol s).1.markDefined s (state.1.intern o.symbol s).2,
        state.2 ++ (o.body?.map (Definition.mk (state.1.intern o.symbol s).2)).toList) := by
  unfold Draft.define
  simp only [hdef, if_true, hs]
  cases o.body? <;> simp

theorem Draft.define_of_not {o : Occurrence} (h : o.definesFunction = false) (state : Draft × List Definition) :
    Draft.define state o = state := by
  unfold Draft.define
  split
  next hdef =>
    have hs : FunctionSymbol.ofText? o.symbol = none := by
      simpa [Occurrence.definesFunction, Occurrence.isFunction, hdef] using h
    rw [hs]
  next => rfl

/-- innermost elements of two lists correspond if their elements do -/
theorem innermost_cases {α β : Type} {R : α → β → Prop} {f : α → Span} {g : β → Span} {xs : List α} {ys : List β}
    (h : List.Forall₂ R xs ys) (hspan : ∀ a b, R a b → g b = f a) :
    (innermost f xs = none ∧ innermost g ys = none) ∨
      ∃ a b, innermost f xs = some a ∧ innermost g ys = some b ∧ R a b := by
  induction h with
  | nil => exact Or.inl ⟨rfl, rfl⟩
  | @cons a b xs ys hab _ ih =>
    refine Or.inr ?_
    unfold innermost
    rcases ih with ⟨hx, hy⟩ | ⟨a', b', hx, hy, hab'⟩
    · exact ⟨a, b, by rw [hx], by rw [hy], hab⟩
    · simp only [hx, hy, hspan a b hab, hspan a' b' hab']
      split
      · exact ⟨a', b', rfl, rfl, hab'⟩
      · exact ⟨a, b, rfl, rfl, hab⟩

/-- no body is around a span, or the definition is found from which a call comes -/
theorem selected_cases {symbols : List String} {doc : Document} {found : List Definition}
    (hfound : List.Forall₂ (Located symbols) doc.bodies found) (span : Span) :
    ((doc.bodies.any fun b => b.2.contains span) = false ∧
        innermost Definition.body (found.filter fun x => x.body.contains span) = none) ∨
      ∃ b x, (doc.bodies.any fun b => b.2.contains span) = true ∧ doc.Selects span b ∧ Located symbols b x ∧
        innermost Definition.body (found.filter fun x => x.body.contains span) = some x := by
  have haround : List.Forall₂ (Located symbols) (doc.bodies.filter fun b => b.2.contains span)
      (found.filter fun x => x.body.contains span) := by
    refine List.rel_filter (fun b x hx => ?_) hfound
    simp only [hx.2]
  rcases innermost_cases (f := Prod.snd) haround fun b x hx => hx.2 with ⟨hb, hx⟩ | ⟨b, x, hb, hx, hlocated⟩
  · refine Or.inl ⟨?_, hx⟩
    simpa using List.filter_eq_nil_iff.1 (innermost_eq_none.1 hb)
  · obtain ⟨hmem, hcontains⟩ := List.mem_filter.1 (mem_of_innermost hb)
    exact Or.inr ⟨b, x, List.any_eq_true.2 ⟨b, hmem, hcontains⟩, exists_split_of_innermost hb, hlocated, hx⟩

/-- an occurrence leaves nothing behind, or it is a call from the definition that is selected -/
theorem Draft.refer_cases {symbols : List String} {doc : Document} {found : List Definition}
    (hfound : List.Forall₂ (Located symbols) doc.bodies found) (o : Occurrence) :
    (doc.isCall o = false ∧ ∀ d, Draft.refer found doc.path d o = d) ∨
      doc.isCall o = true ∧ ∃ s span b x, FunctionSymbol.ofText? o.symbol = some s ∧
        Span.ofRange? o.range = some span ∧ doc.Selects span b ∧ Located symbols b x ∧
          ∀ d, Draft.refer found doc.path d o =
            { (d.intern o.symbol s).1 with
              program := (d.intern o.symbol s).1.program.addCall
                { caller := x.function, callee := (d.intern o.symbol s).2,
                  position := some (positionText doc.path span) } } := by
  cases hdef : o.isDefinition with
  | true => exact Or.inl ⟨by simp [Document.isCall, hdef], fun d => by simp [Draft.refer, hdef]⟩
  | false =>
    cases hs : FunctionSymbol.ofText? o.symbol with
    | none =>
      exact Or.inl ⟨by simp [Document.isCall, Occurrence.isFunction, hs], fun d => by simp [Draft.refer, hdef, hs]⟩
    | some s =>
      cases hspan : Span.ofRange? o.range with
      | none => exact Or.inl ⟨by simp [Document.isCall, hspan], fun d => by simp [Draft.refer, hdef, hs, hspan]⟩
      | some span =>
        rcases selected_cases hfound span with ⟨hnone, hx⟩ | ⟨b, x, hsome, hb, hlocated, hx⟩
        · refine Or.inl ⟨?_, fun d => by simp [Draft.refer, hdef, hs, hspan, hx]⟩
          simp [Document.isCall, hspan, hnone]
        · refine Or.inr ⟨?_, s, span, b, x, rfl, rfl, hb, hlocated, fun d => ?_⟩
          · simp [Document.isCall, Occurrence.isFunction, hdef, hs, hspan, hsome]
          · simp [Draft.refer, hdef, hs, hspan, hx]

namespace Draft.Reads

variable {d : Draft} {named : List String} {definitions : List Occurrence} {sites : List (Document × Occurrence)}

/-- one occurrence on the first reading -/
theorem define {bodies : List (String × Span)} {found : List Definition} (h : d.Reads named definitions sites)
    (hfound : List.Forall₂ (Located d.symbols) bodies found) (o : Occurrence) :
    (Draft.define (d, found) o).1.Reads (named ++ ([o].filter Occurrence.definesFunction).map Occurrence.symbol)
        (definitions ++ [o].filter Occurrence.definesFunction) sites ∧
      List.Forall₂ (Located (Draft.define (d, found) o).1.symbols) (bodies ++ bodiesIn [o])
        (Draft.define (d, found) o).2 := by
  cases hdef : o.definesFunction with
  | false =>
    rw [Draft.define_of_not hdef]
    simpa [bodiesIn, hdef] using ⟨h, hfound⟩
  | true =>
    obtain ⟨hdefinition, hfunction⟩ := Bool.and_eq_true_iff.1 hdef
    obtain ⟨s, hs⟩ := Option.isSome_iff_exists.1 hfunction
    obtain ⟨hinterned, hid⟩ := h.intern hs
    obtain ⟨hmarked, hsymbols⟩ := hinterned.markDefined hs hid
    have hle := h.prefix_symbols hinterned
    rw [Draft.define_of_definesFunction hdefinition hs]
    simp only [List.filter_cons_of_pos hdef, List.filter_nil, List.map_cons, List.map_nil, hsymbols]
    refine ⟨hmarked, List.rel_append (hfound.imp fun _ _ hx => hx.mono hle) ?_⟩
    cases hbody : o.body? with
    | none => simp [bodiesIn, hdef, hbody]
    | some body => simp [bodiesIn, hdef, hbody, Located, hid]

/-- one occurrence on the second reading -/
theorem refer {doc : Document} {found : List Definition} (h : d.Reads named definitions sites)
    (hfound : List.Forall₂ (Located d.symbols) doc.bodies found) (o : Occurrence) :
    (Draft.refer found doc.path d o).Reads (named ++ ([o].filter doc.isCall).map Occurrence.symbol) definitions
      (sites ++ ([o].filter doc.isCall).map (doc, ·)) := by
  rcases Draft.refer_cases hfound o with ⟨hcall, heq⟩ | ⟨hcall, s, span, b, x, hs, hspan, hb, hx, heq⟩
  · rw [heq]
    simpa [hcall] using h
  · obtain ⟨hinterned, hcallee⟩ := h.intern hs
    have hcaller := (hx.mono (h.prefix_symbols hinterned)).1
    rw [heq]
    simp only [List.filter_cons_of_pos hcall, List.filter_nil, List.map_cons, List.map_nil]
    exact hinterned.addCall ⟨span, b, hspan, hb, hcaller, hcallee, rfl⟩

/-- the first reading of a document -/
theorem readDefinitions {docs : List Document} {found : List (List Definition)} (h : d.Reads named definitions sites)
    (hfound : List.Forall₂ (fun doc ds => List.Forall₂ (Located d.symbols) doc.bodies ds) docs found) (doc : Document) :
    (Draft.readDefinitions (d, found) doc).1.Reads
        (named ++ (doc.occurrences.filter Occurrence.definesFunction).map Occurrence.symbol)
        (definitions ++ doc.occurrences.filter Occurrence.definesFunction) sites ∧
      List.Forall₂
        (fun doc' ds => List.Forall₂ (Located (Draft.readDefinitions (d, found) doc).1.symbols) doc'.bodies ds)
        (docs ++ [doc]) (Draft.readDefinitions (d, found) doc).2 := by
  -- by induction on the occurrences that have been read, taken from the last
  have hread : ∀ os : List Occurrence,
      (os.foldl Draft.define (d, [])).1.Reads (named ++ (os.filter Occurrence.definesFunction).map Occurrence.symbol)
          (definitions ++ os.filter Occurrence.definesFunction) sites ∧
        List.Forall₂ (Located (os.foldl Draft.define (d, [])).1.symbols) (bodiesIn os)
          (os.foldl Draft.define (d, [])).2 := by
    intro os
    induction os using List.reverseRecOn with
    | nil => simpa using ⟨h, by simp [bodiesIn]⟩
    | append_singleton os o ih =>
      obtain ⟨hos, hbodies⟩ := ih
      rw [List.foldl_concat, List.filter_append, List.map_append, ← List.append_assoc, ← List.append_assoc,
        bodiesIn_append]
      exact hos.define hbodies o
  obtain ⟨hdoc, hbodies⟩ := hread doc.occurrences
  refine ⟨hdoc, List.rel_append (hfound.imp fun _ _ hds => ?_) (.cons hbodies .nil)⟩
  exact hds.imp fun _ _ hx => hx.mono (h.prefix_symbols hdoc)

/-- the second reading of a document -/
theorem readReferences {doc : Document} {found : List Definition} (h : d.Reads named definitions sites)
    (hfound : List.Forall₂ (Located d.symbols) doc.bodies found) :
    (d.readReferences (doc, found)).Reads (named ++ (doc.occurrences.filter doc.isCall).map Occurrence.symbol)
      definitions (sites ++ (doc.occurrences.filter doc.isCall).map (doc, ·)) := by
  unfold Draft.readReferences
  dsimp only
  induction doc.occurrences using List.reverseRecOn with
  | nil => simpa using h
  | append_singleton os o ih =>
    rw [List.foldl_concat, List.filter_append, List.map_append, List.map_append, ← List.append_assoc,
      ← List.append_assoc]
    exact ih.refer (hfound.imp fun _ _ hx => hx.mono (h.prefix_symbols ih)) o

end Draft.Reads

/-- the first reading of all documents -/
theorem reads_definitions (docs : List Document) :
    (docs.foldl Draft.readDefinitions ({}, [])).1.Reads ((definitionsIn docs).map Occurrence.symbol)
        (definitionsIn docs) [] ∧
      List.Forall₂
        (fun doc ds =>
          List.Forall₂ (Located (docs.foldl Draft.readDefinitions ({}, [])).1.symbols) doc.bodies ds)
        docs (docs.foldl Draft.readDefinitions ({}, [])).2 := by
  induction docs using List.reverseRecOn with
  | nil => exact ⟨.empty, .nil⟩
  | append_singleton docs doc ih =>
    obtain ⟨hdocs, hfound⟩ := ih
    rw [List.foldl_concat, definitionsIn_concat, List.map_append]
    exact hdocs.readDefinitions hfound doc

/-- the second reading of documents whose definitions are known -/
theorem Draft.Reads.readAllReferences {d : Draft} {named : List String} {definitions : List Occurrence}
    {sites : List (Document × Occurrence)} {docs : List Document} {found : List (List Definition)}
    (h : d.Reads named definitions sites)
    (hfound : List.Forall₂ (fun doc ds => List.Forall₂ (Located d.symbols) doc.bodies ds) docs found) :
    ((docs.zip found).foldl Draft.readReferences d).Reads
      (named ++ (callSitesIn docs).map fun site => site.2.symbol) definitions (sites ++ callSitesIn docs) := by
  induction docs generalizing d named sites found with
  | nil => simpa [callSitesIn] using h
  | cons doc docs ih =>
    cases hfound with
    | cons hdoc hdocs =>
      have hread := h.readReferences hdoc
      have hrest := ih hread (hdocs.imp fun _ _ hds => hds.imp fun _ _ hx => hx.mono (h.prefix_symbols hread))
      simpa [callSitesIn, Function.comp_def] using hrest

/-- the draft of an index, once all definitions and then all calls are read -/
def draft (index : Index) : Draft :=
  let (d, definitions) := index.documents.foldl Draft.readDefinitions ({}, [])
  (index.documents.zip definitions).foldl Draft.readReferences d

variable (index : Index)

/-- **The draft of an index has read it.** It has read all definitions and then all calls. -/
theorem draft_reads :
    index.draft.Reads (index.definitions.map Occurrence.symbol ++ index.callSites.map fun site => site.2.symbol)
      index.definitions index.callSites := by
  obtain ⟨hdefinitions, hfound⟩ := reads_definitions index.documents
  exact hdefinitions.readAllReferences hfound

theorem draft_symbols : index.draft.symbols = index.functionSymbols :=
  index.draft_reads.symbols

/-- the program is the draft with its modules -/
theorem program_eq :
    index.program =
      { index.draft.program with
        libraryModules := (index.draft.crates.filter fun c => !index.draft.ownCrates.contains c).foldl addNew []
        ownModules := index.draft.ownCrates.foldl addNew [] } :=
  index.draft_reads.finish_eq

/-! ## The program of an index -/

theorem mem_definitions {o : Occurrence} :
    o ∈ index.definitions ↔
      (∃ doc ∈ index.documents, o ∈ doc.occurrences) ∧ o.isDefinition = true ∧ o.isFunction = true := by
  simp [definitions, definitionsIn, Occurrence.definesFunction]

theorem mem_callSites {doc : Document} {o : Occurrence} :
    (doc, o) ∈ index.callSites ↔
      doc ∈ index.documents ∧ o ∈ doc.occurrences ∧ o.isDefinition = false ∧ o.isFunction = true ∧
        ∃ span, Span.ofRange? o.range = some span ∧ ∃ b ∈ doc.bodies, b.2.contains span = true := by
  simp [callSites, callSitesIn, Document.isCall, and_assoc, Option.any_eq_true, List.any_eq_true]

theorem presents_functions :
    List.Forall₂ (Presents (index.program.packages.map Package.path)) index.functionSymbols index.program.functions := by
  rw [program_eq, ← draft_symbols]
  exact index.draft_reads.functions

theorem isCallAt_calls : List.Forall₂ (IsCallAt index.functionSymbols) index.callSites index.program.calls := by
  rw [program_eq, ← draft_symbols]
  exact index.draft_reads.calls

theorem hasDefined_entryPoints :
    HasDefined FunctionSymbol.isEntryPoint index.functionSymbols index.definitions index.program.entryPoints := by
  rw [program_eq, ← draft_symbols]
  exact index.draft_reads.entryPoints

theorem hasDefined_testEntryPoints :
    HasDefined FunctionSymbol.isTest index.functionSymbols index.definitions index.program.testEntryPoints := by
  rw [program_eq, ← draft_symbols]
  exact index.draft_reads.testEntryPoints

/-- own modules are the crates with a definition -/
theorem hasCrates_ownModules : HasCrates index.program.ownModules (index.definitions.map Occurrence.symbol) := by
  rw [program_eq]
  intro c
  rw [← index.draft_reads.ownCrates c, mem_foldl_addNew]
  simp

/-- library modules are the other crates -/
theorem mem_libraryModules {c : String} :
    c ∈ index.program.libraryModules ↔
      (c ∉ FunctionSymbol.toolchainCrates ∧
        ∃ symbol ∈ index.functionSymbols, ∃ s, FunctionSymbol.ofText? symbol = some s ∧ s.crate = c) ∧
      c ∉ index.program.ownModules := by
  rw [program_eq, ← draft_symbols, ← index.draft_reads.crates c]
  simp [mem_foldl_addNew]

end Index

end CallAtlas
