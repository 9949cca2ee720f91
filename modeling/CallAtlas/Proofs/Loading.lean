/-
Programs as they are loaded.

A program comes from a manifest or from an index. Both loaders put positions in the place of names, a manifest by looking
its ids up among those that it declares, an index by interning symbols as they come. Either way every position is one
that exists.
- `exists_stages_of_link`: what a manifest that links gives, stage by stage.
- `Draft.Sound`: while an index is read, all ids are in range and there is one symbol for each function; each step keeps
  this (`Sound.intern`, `Sound.markDefined`, `Sound.define`, `Sound.refer`).
- `Program.Loaded.inRange`: so all ids of a loaded program exist.
-/
import Mathlib.Tactic.SplitIfs
import CallAtlas.Proofs.FirstError
import CallAtlas.Proofs.InRange
import CallAtlas.Source

namespace CallAtlas

/-! ## Manifests -/

namespace Manifest

variable {m : Manifest} {p : Program}

theorem lt_of_lookup {id : String} {f : FunctionId} (h : m.lookup id = .ok f) : f < m.functions.length := by
  unfold lookup at h
  split at h
  next i hi =>
    cases h
    simpa [ids] using (List.findIdx?_eq_some_iff_getElem.1 hi).1
  next => cases h

theorem lt_of_mapM_lookup {ids : List String} {fs : List FunctionId} (h : ids.mapM m.lookup = .ok fs) :
    ∀ f ∈ fs, f < m.functions.length :=
  forall_of_mapM_ok h fun _ _ => lt_of_lookup

/-! ### Stages of linking -/

/-- the packages with functions and calls -/
def declared (m : Manifest) (functions : List Function) (calls : List Call) : Program :=
  { m.withPackages with functions, calls }

/-- the entry points, given or found -/
def entriesIn (m : Manifest) (p : Program) : Except LinkError (List FunctionId) :=
  match m.entryPoints with
  | some given => given.mapM m.lookup
  | none => .ok (mains p)

/-- a program with entry points, and with the modules that follow from them -/
def finish (m : Manifest) (p : Program) (entries tests : List FunctionId) : Program :=
  let p := tests.foldl Program.addTestEntryPoint (entries.foldl Program.addEntryPoint p)
  let entryPaths := (p.entryPoints ++ p.testEntryPoints).filterMap fun f => (p.packageOf? f).map Package.path
  (m.mainModule.toList ++ m.modules ++ entryPaths).foldl Program.addOwnModule p

theorem link_eq (m : Manifest) :
    m.link =
      match firstRepeat? [] m.ids with
      | some id => .error (.duplicateFunction id)
      | none => do
        let functions ← m.functions.mapM (m.linkFunction m.withPackages)
        let calls ← m.calls.mapM m.linkCall
        let entries ← m.entriesIn (m.declared functions calls)
        let tests ← m.testEntryPoints.mapM m.lookup
        return m.finish (m.declared functions calls) entries tests := by
  unfold link entriesIn
  cases firstRepeat? [] m.ids with
  | some id => cases m.entryPoints <;> rfl
  | none => cases m.entryPoints <;> rfl

/-- a manifest that links passes all stages -/
theorem exists_stages_of_link (h : m.link = .ok p) :
    ∃ functions calls entries tests,
      m.functions.mapM (m.linkFunction m.withPackages) = .ok functions ∧ m.calls.mapM m.linkCall = .ok calls ∧
        m.entriesIn (m.declared functions calls) = .ok entries ∧ m.testEntryPoints.mapM m.lookup = .ok tests ∧
          p = m.finish (m.declared functions calls) entries tests := by
  rw [link_eq] at h
  split at h
  · cases h
  · obtain ⟨functions, hfunctions, h⟩ := exists_of_bind_ok h
    obtain ⟨calls, hcalls, h⟩ := exists_of_bind_ok h
    obtain ⟨entries, hentries, h⟩ := exists_of_bind_ok h
    obtain ⟨tests, htests, h⟩ := exists_of_bind_ok h
    exact ⟨functions, calls, entries, tests, hfunctions, hcalls, hentries, htests, (Except.ok.inj h).symm⟩

/-! ### Positions in a linked program -/

/-- the function that a wrapper forwards to -/
def wrapsOf (m : Manifest) (f : ManifestFunction) : Except LinkError (Option FunctionId) :=
  match f.wraps with
  | some id => (m.lookup id).map some
  | none => .ok none

theorem linkFunction_eq (m : Manifest) (p : Program) (f : ManifestFunction) :
    m.linkFunction p f =
      match p.packageByPath? f.package with
      | some package => (m.wrapsOf f).map fun wraps =>
          { name := f.name, package, receiver := f.receiver, synthetic := f.synthetic, wraps }
      | none => .error (.unknownPackage f.id f.package) := by
  unfold linkFunction wrapsOf
  cases p.packageByPath? f.package with
  | none => rfl
  | some package =>
    cases f.wraps with
    | none => rfl
    | some id => cases m.lookup id <;> rfl

/-- a function that links is in a listed package, and what it forwards to is declared -/
theorem lt_of_linkFunction {f : ManifestFunction} {g : Function} (h : m.linkFunction p f = .ok g) :
    g.package < p.packages.length ∧ ∀ target ∈ g.wraps, target < m.functions.length := by
  rw [linkFunction_eq] at h
  split at h
  · rename_i package hpackage
    have hlt : package < p.packages.length := (List.findIdx?_eq_some_iff_getElem.1 hpackage).1
    unfold wrapsOf at h
    split at h
    · rename_i id _
      cases hlookup : m.lookup id with
      | error e =>
        rw [hlookup] at h
        cases h
      | ok target =>
        rw [hlookup] at h
        cases h
        exact ⟨hlt, fun t ht => Option.mem_some.1 ht ▸ lt_of_lookup hlookup⟩
    · cases h
      exact ⟨hlt, by simp⟩
  · cases h

theorem lt_of_linkCall {c : ManifestCall} {d : Call} (h : m.linkCall c = .ok d) :
    d.caller < m.functions.length ∧ d.callee < m.functions.length := by
  obtain ⟨caller, hcaller, h⟩ := exists_of_bind_ok h
  obtain ⟨callee, hcallee, h⟩ := exists_of_bind_ok h
  cases h
  exact ⟨lt_of_lookup hcaller, lt_of_lookup hcallee⟩

theorem inRange_withPackages (m : Manifest) : m.withPackages.InRange ∧ m.withPackages.functions = [] := by
  have hempty : ({} : Program).InRange := by decide
  exact hempty.foldl fun q hq hnone k _ => ⟨(hq.addPackage _ _).1, (q.functions_addPackage _ _).trans hnone⟩

theorem inRange_declared {functions : List Function} {calls : List Call}
    (hfunctions : m.functions.mapM (m.linkFunction m.withPackages) = .ok functions)
    (hcalls : m.calls.mapM m.linkCall = .ok calls) :
    (m.declared functions calls).InRange ∧ functions.length = m.functions.length := by
  have hlength := (mapM_eq_ok_iff.1 hfunctions).length_eq.symm
  have hlinked := forall_of_mapM_ok hfunctions fun _ _ => lt_of_linkFunction
  obtain ⟨hin, hnone⟩ := m.inRange_withPackages
  have hle : m.withPackages.functions.length ≤ functions.length := by simp [hnone]
  refine ⟨?_, hlength⟩
  constructor
  case packages => exact fun f hf => (hlinked f hf).1
  case wraps => exact fun f hf target htarget => hlength ▸ (hlinked f hf).2 target htarget
  case calls => exact hlength ▸ forall_of_mapM_ok hcalls fun _ _ => lt_of_linkCall
  case entryPoints => exact fun f hf => Nat.lt_of_lt_of_le (hin.entryPoints f hf) hle
  case testEntryPoints => exact fun f hf => Nat.lt_of_lt_of_le (hin.testEntryPoints f hf) hle

theorem lt_of_mem_mains {f : FunctionId} (h : f ∈ mains p) : f < p.functions.length := by
  obtain ⟨⟨g, id⟩, hg, heq⟩ := List.mem_filterMap.1 h
  dsimp only at heq
  split_ifs at heq
  cases heq
  exact (List.getElem?_eq_some_iff.1 (List.mem_zipIdx_iff_getElem?.1 hg)).1

theorem inRange_finish {entries tests : List FunctionId} (h : p.InRange)
    (hentries : ∀ f ∈ entries, f < p.functions.length) (htests : ∀ f ∈ tests, f < p.functions.length) :
    (m.finish p entries tests).InRange := by
  have hentered : (entries.foldl Program.addEntryPoint p).InRange ∧
      (entries.foldl Program.addEntryPoint p).functions = p.functions :=
    h.foldl fun q hq hsame f hf => ⟨hq.addEntryPoint (hsame ▸ hentries f hf), hsame⟩
  obtain ⟨hentered, hsame⟩ := hentered
  have htested : (tests.foldl Program.addTestEntryPoint (entries.foldl Program.addEntryPoint p)).InRange :=
    (hentered.foldl fun q hq hq' f hf => ⟨hq.addTestEntryPoint ((hq'.trans hsame) ▸ htests f hf), hq'⟩).1
  exact (htested.foldl fun q hq hq' path _ => ⟨hq.addOwnModule path, hq'⟩).1

/-- **A manifest that links gives a program whose ids exist.** -/
theorem inRange_of_link (h : m.link = .ok p) : p.InRange := by
  obtain ⟨functions, calls, entries, tests, hfunctions, hcalls, hentries, htests, rfl⟩ := exists_stages_of_link h
  obtain ⟨hin, hlength⟩ := inRange_declared hfunctions hcalls
  have hentries : ∀ f ∈ entries, f < functions.length := by
    unfold entriesIn at hentries
    split at hentries
    · exact hlength ▸ lt_of_mapM_lookup hentries
    · cases hentries
      exact fun f => lt_of_mem_mains
  exact inRange_finish hin hentries (hlength ▸ lt_of_mapM_lookup htests)

end Manifest

/-! ## Indexes -/

namespace Index

/-- a draft whose ids are in range, with one symbol for each function -/
structure Draft.Sound (d : Draft) : Prop where
  inRange : d.program.InRange
  symbols : d.symbols.length = d.program.functions.length

/-- number of functions of a draft -/
abbrev Draft.size (d : Draft) : Nat := d.program.functions.length

/-- definitions of functions that a draft has -/
def Draft.Has (d : Draft) (definitions : List Definition) : Prop :=
  ∀ x ∈ definitions, x.function < d.size

theorem Draft.Has.mono {d d' : Draft} {definitions : List Definition} (h : d.Has definitions) (hle : d.size ≤ d'.size) :
    d'.Has definitions :=
  fun x hx => Nat.lt_of_lt_of_le (h x hx) hle

namespace Draft.Sound

variable {d : Draft} {definitions : List Definition}

/-- the function of a symbol exists once the symbol is interned -/
theorem intern (h : d.Sound) (symbol : String) (s : FunctionSymbol) :
    (d.intern symbol s).1.Sound ∧ d.size ≤ (d.intern symbol s).1.size ∧
      (d.intern symbol s).2 < (d.intern symbol s).1.size := by
  unfold Draft.intern
  split
  · rename_i id hid
    have hlt : id < d.symbols.length := (List.findIdx?_eq_some_iff_getElem.1 hid).1
    exact ⟨h, Nat.le_refl _, Nat.lt_of_lt_of_eq hlt h.symbols⟩
  · obtain ⟨hin, hlt⟩ := h.inRange.addPackage s.packagePath s.packageName
    have hsize : (d.program.addPackage s.packagePath s.packageName).1.functions.length = d.size := by
      rw [Program.functions_addPackage]
    refine ⟨⟨hin.addFunction hlt (by simp), ?_⟩, ?_, ?_⟩
    · simp [Program.addFunction, hsize, h.symbols]
    · simp [Draft.size, Program.addFunction, hsize]
    · simp [Draft.size, Program.addFunction]

theorem markDefined {id : FunctionId} (h : d.Sound) (s : FunctionSymbol) (hid : id < d.size) :
    (d.markDefined s id).Sound ∧ (d.markDefined s id).size = d.size := by
  have hentry : ∀ q : Program, q.InRange ∧ q.functions = d.program.functions →
      (if s.isEntryPoint then q.addEntryPoint id else q).InRange ∧
        (if s.isEntryPoint then q.addEntryPoint id else q).functions = d.program.functions := by
    rintro q ⟨hq, hsame⟩
    split
    · exact ⟨hq.addEntryPoint (hsame ▸ hid), hsame⟩
    · exact ⟨hq, hsame⟩
  have htest : ∀ q : Program, q.InRange ∧ q.functions = d.program.functions →
      (if s.isTest then q.addTestEntryPoint id else q).InRange ∧
        (if s.isTest then q.addTestEntryPoint id else q).functions = d.program.functions := by
    rintro q ⟨hq, hsame⟩
    split
    · exact ⟨hq.addTestEntryPoint (hsame ▸ hid), hsame⟩
    · exact ⟨hq, hsame⟩
  have hrename : ∀ q : Program, q.InRange ∧ q.functions = d.program.functions → ∀ r,
      r = (if s.isEntryPoint then ((q.functions[id]?).bind fun f => q.renamePackage? f.package "main").getD q else q) →
        r.InRange ∧ r.functions = d.program.functions := by
    rintro q ⟨hq, hsame⟩ r rfl
    split
    · cases hr : (q.functions[id]?).bind fun f => q.renamePackage? f.package "main" with
      | none => exact ⟨hq, hsame⟩
      | some r =>
        obtain ⟨f, -, hr⟩ := Option.bind_eq_some_iff.1 hr
        obtain ⟨hrenamed, hsame'⟩ := hq.renamePackage? hr
        exact ⟨hrenamed, hsame'.trans hsame⟩
    · exact ⟨hq, hsame⟩
  obtain ⟨hin, hsame⟩ := htest _ (hrename _ (hentry _ ⟨h.inRange, rfl⟩) _ rfl)
  exact ⟨⟨hin, h.symbols.trans (congrArg List.length hsame).symm⟩, congrArg List.length hsame⟩

/-- one occurrence on the first reading -/
theorem define (h : d.Sound) (hhas : d.Has definitions) (o : Occurrence) :
    (Draft.define (d, definitions) o).1.Sound ∧ d.size ≤ (Draft.define (d, definitions) o).1.size ∧
      (Draft.define (d, definitions) o).1.Has (Draft.define (d, definitions) o).2 := by
  unfold Draft.define
  split
  · split
    · exact ⟨h, Nat.le_refl _, hhas⟩
    · rename_i s _
      obtain ⟨hinterned, hle, hlt⟩ := h.intern o.symbol s
      obtain ⟨hmarked, hsize⟩ := hinterned.markDefined s hlt
      have hle : d.size ≤ ((d.intern o.symbol s).1.markDefined s (d.intern o.symbol s).2).size := hsize.symm ▸ hle
      dsimp only
      split
      · exact ⟨hmarked, hle, hhas.mono hle⟩
      · exact ⟨hmarked, hle, List.forall_mem_append.2 ⟨hhas.mono hle, by simpa using hsize.symm ▸ hlt⟩⟩
  · exact ⟨h, Nat.le_refl _, hhas⟩

/-- one occurrence on the second reading -/
theorem refer (h : d.Sound) (hhas : d.Has definitions) (path : String) (o : Occurrence) :
    (Draft.refer definitions path d o).Sound ∧ d.size ≤ (Draft.refer definitions path d o).size := by
  unfold Draft.refer
  split
  · exact ⟨h, Nat.le_refl _⟩
  · split
    · rename_i s span _ _
      split
      · exact ⟨h, Nat.le_refl _⟩
      · rename_i caller hcaller
        obtain ⟨hinterned, hle, hlt⟩ := h.intern o.symbol s
        have hmem : caller ∈ definitions := List.mem_of_mem_filter (mem_of_innermost hcaller)
        have hcaller : caller.function < (d.intern o.symbol s).1.size := Nat.lt_of_lt_of_le (hhas caller hmem) hle
        exact ⟨⟨hinterned.inRange.addCall hcaller hlt, hinterned.symbols⟩, hle⟩
    · exact ⟨h, Nat.le_refl _⟩

/-- the first reading of a document -/
theorem readDefinitions {seen : List (List Definition)} (h : d.Sound) (hseen : ∀ ds ∈ seen, d.Has ds)
    (doc : Document) :
    (Draft.readDefinitions (d, seen) doc).1.Sound ∧
      ∀ ds ∈ (Draft.readDefinitions (d, seen) doc).2, (Draft.readDefinitions (d, seen) doc).1.Has ds := by
  have hread : (doc.occurrences.foldl Draft.define (d, [])).1.Sound ∧
      d.size ≤ (doc.occurrences.foldl Draft.define (d, [])).1.size ∧
        (doc.occurrences.foldl Draft.define (d, [])).1.Has (doc.occurrences.foldl Draft.define (d, [])).2 := by
    refine List.foldlRecOn (motive := fun e : Draft × List Definition => e.1.Sound ∧ d.size ≤ e.1.size ∧ e.1.Has e.2)
      doc.occurrences _ ⟨h, Nat.le_refl _, by simp [Draft.Has]⟩ ?_
    rintro ⟨e, definitions⟩ ⟨he, hle, hhas⟩ o -
    obtain ⟨hdefined, hle', hhas'⟩ := he.define hhas o
    exact ⟨hdefined, Nat.le_trans hle hle', hhas'⟩
  obtain ⟨hsound, hle, hhas⟩ := hread
  refine ⟨hsound, List.forall_mem_append.2 ⟨fun ds hds => (hseen ds hds).mono hle, fun ds hds => ?_⟩⟩
  exact List.mem_singleton.1 hds ▸ hhas

/-- the second reading of a document -/
theorem readReferences (h : d.Sound) (doc : Document × List Definition) (hhas : d.Has doc.2) :
    (d.readReferences doc).Sound ∧ d.size ≤ (d.readReferences doc).size := by
  unfold Draft.readReferences
  refine List.foldlRecOn (motive := fun e : Draft => e.Sound ∧ d.size ≤ e.size) doc.1.occurrences _
    ⟨h, Nat.le_refl _⟩ ?_
  rintro e ⟨he, hle⟩ o -
  obtain ⟨hreferred, hle'⟩ := he.refer (hhas.mono hle) doc.1.path o
  exact ⟨hreferred, Nat.le_trans hle hle'⟩

theorem finish (h : d.Sound) : d.finish.InRange := by
  have hlibraries : ((d.crates.filter fun c => !d.ownCrates.contains c).foldl Program.addLibraryModule d.program).InRange :=
    (h.inRange.foldl fun q hq hsame path _ => ⟨hq.addLibraryModule path, hsame⟩).1
  exact (hlibraries.foldl fun q hq hsame path _ => ⟨hq.addOwnModule path, hsame⟩).1

end Draft.Sound

/-- **An index gives a program whose ids exist.** -/
theorem inRange_program (index : Index) : index.program.InRange := by
  have hempty : Draft.Sound {} := ⟨by decide, rfl⟩
  have hdefinitions : (index.documents.foldl Draft.readDefinitions ({}, [])).1.Sound ∧
      ∀ ds ∈ (index.documents.foldl Draft.readDefinitions ({}, [])).2,
        (index.documents.foldl Draft.readDefinitions ({}, [])).1.Has ds := by
    refine List.foldlRecOn (motive := fun e : Draft × List (List Definition) => e.1.Sound ∧ ∀ ds ∈ e.2, e.1.Has ds)
      index.documents _ ⟨hempty, by simp⟩ ?_
    rintro ⟨d, seen⟩ ⟨hd, hseen⟩ doc -
    exact hd.readDefinitions hseen doc
  unfold program
  generalize index.documents.foldl Draft.readDefinitions ({}, []) = state at hdefinitions
  obtain ⟨d, definitions⟩ := state
  obtain ⟨hd, hhas⟩ := hdefinitions
  have hreferences : ((index.documents.zip definitions).foldl Draft.readReferences d).Sound ∧
      d.size ≤ ((index.documents.zip definitions).foldl Draft.readReferences d).size := by
    refine List.foldlRecOn (motive := fun e : Draft => e.Sound ∧ d.size ≤ e.size) (index.documents.zip definitions) _
      ⟨hd, Nat.le_refl _⟩ ?_
    rintro e ⟨he, hle⟩ ⟨doc, ds⟩ hmem
    obtain ⟨hread, hle'⟩ := he.readReferences (doc, ds) ((hhas ds (List.of_mem_zip hmem).2).mono hle)
    exact ⟨hread, Nat.le_trans hle hle'⟩
  exact hreferences.1.finish

end Index

/-! ## Loaded programs -/

/-- a program that a loader can make -/
inductive Program.Loaded : Program → Prop where
  | manifest {m : Manifest} {p : Program} (h : m.link = .ok p) : Loaded p
  | index (index : Index) : Loaded index.program

/-- **All ids of a loaded program exist.** -/
theorem Program.Loaded.inRange {p : Program} (h : p.Loaded) : p.InRange := by
  cases h with
  | manifest h => exact Manifest.inRange_of_link h
  | index index => exact index.inRange_program

/-- what is read from the bytes of a file is a program that a loader can make -/
theorem Source.loaded_of_load {source : Source} {path : String} {bytes : Option (List UInt8)} {p : Program}
    (h : source.load path bytes = .ok p) : p.Loaded := by
  unfold load at h
  split at h
  · cases h
  · split at h
    · cases h
    · unfold loadManifest at h
      split at h
      · cases h
      · rename_i m _
        cases hlink : m.link with
        | error e =>
          rw [hlink] at h
          cases h
        | ok q =>
          rw [hlink] at h
          cases h
          exact .manifest hlink
  · split at h
    · cases h
    · cases h
      exact .index _

end CallAtlas
