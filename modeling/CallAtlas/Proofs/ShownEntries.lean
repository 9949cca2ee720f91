/-
Entries are always shown.

Without prefixes a filter drops functions of the toolchain only, or none, and the toolchain is told by paths of one
segment. The package of an entry may have such a path too, so it takes a loader that says whose it is.
- `Manifest.exists_ownModule_of_link`: a manifest makes the packages of all entries modules of its program.
- `Index.keeps?_of_isEntry`: an index has no entries in the toolchain, and the crates of all others are modules.
- `Program.Loaded.keeps?_of_isEntry`: so the entries of every loaded program are kept.
- `Analysis.entries_shown`: a run without a focus starts at the entries, and its graph has all of them.
-/
import CallAtlas.Proofs.Crates
import CallAtlas.Proofs.OrderIndependence

namespace CallAtlas

/-! ## Entries of a manifest -/

namespace Manifest

variable {m : Manifest} {p : Program} {filter : Filter} {f : FunctionId}

/-- the last stage of linking makes modules of the packages of all entries -/
theorem exists_finish_eq (m : Manifest) (p : Program) (entries tests : List FunctionId) :
    ∃ (q : Program) (paths : List String),
      m.finish p entries tests = { q with ownModules := paths.foldl addNew q.ownModules } ∧
        ∀ f k, q.IsEntry f → q.packageOf? f = some k → k.path ∈ paths := by
  refine ⟨_, _, Program.foldl_addOwnModule _ _, fun f k hf hk => List.mem_append_right _ ?_⟩
  exact List.mem_filterMap.2 ⟨f, List.mem_append.2 hf, by rw [hk, Option.map_some]⟩

theorem exists_ownModule_of_link (h : m.link = .ok p) (hf : p.IsEntry f) :
    ∃ k, p.packageOf? f = some k ∧ k.path ∈ p.ownModules := by
  have hin : p.InRange := inRange_of_link h
  obtain ⟨k, hk⟩ := hin.exists_packageOf? (hin.lt_of_isEntry hf)
  refine ⟨k, hk, ?_⟩
  obtain ⟨functions, calls, entries, tests, -, -, -, -, rfl⟩ := exists_stages_of_link h
  obtain ⟨q, paths, hq, hpaths⟩ := m.exists_finish_eq (m.declared functions calls) entries tests
  rw [hq] at hf hk ⊢
  exact mem_foldl_addNew.2 (Or.inr (hpaths f k hf hk))

theorem keeps?_of_isEntry (h : m.link = .ok p) (hlimit : filter.limit = []) (hignore : filter.ignore = [])
    (hf : p.IsEntry f) : p.keeps? filter f = some true := by
  obtain ⟨k, hk, hown⟩ := exists_ownModule_of_link h hf
  rw [Program.keeps?, hk, Option.map_some, Option.some.injEq]
  exact (Filter.keepsPath_iff hlimit hignore).2 (Or.inr (Or.inr (Or.inl hown)))

end Manifest

/-! ## Entries of an index -/

namespace FunctionSymbol

variable {s : FunctionSymbol}

theorem not_toolchain_of_isEntryPoint (h : s.isEntryPoint = true) : s.crate ∉ toolchainCrates := by
  simp only [isEntryPoint, isToolchain, Bool.and_eq_true] at h
  simpa using h.1.1.1

theorem not_toolchain_of_isTest (h : s.isTest = true) : s.crate ∉ toolchainCrates := by
  simp only [isTest, isToolchain, Bool.and_eq_true] at h
  simpa using h.1.1

end FunctionSymbol

namespace Index

variable {index : Index} {filter : Filter} {f : FunctionId}

open FunctionSymbol (toolchainCrates)

/-- the symbol of an entry is of a crate outside the toolchain -/
theorem exists_symbolOf?_of_isEntry (hf : index.program.IsEntry f) :
    ∃ s, index.symbolOf? f = some s ∧ s.crate ∉ toolchainCrates := by
  have hof : ∀ {P : FunctionSymbol → Bool} {ids : List FunctionId}, (∀ s, P s = true → s.crate ∉ toolchainCrates) →
      HasDefined P index.functionSymbols index.definitions ids → f ∈ ids →
        ∃ s, index.symbolOf? f = some s ∧ s.crate ∉ toolchainCrates := by
    intro P ids hP hids hf
    obtain ⟨o, -, hsymbol, s, hs, hPs⟩ := (hids.2 f).1 hf
    exact ⟨s, by rw [symbolOf?, hsymbol, Option.bind_some, hs], hP s hPs⟩
  rcases hf with hf | hf
  · exact hof (fun s => FunctionSymbol.not_toolchain_of_isEntryPoint) index.hasDefined_entryPoints hf
  · exact hof (fun s => FunctionSymbol.not_toolchain_of_isTest) index.hasDefined_testEntryPoints hf

theorem keeps?_of_isEntry (hlimit : filter.limit = []) (hignore : filter.ignore = [])
    (hf : index.program.IsEntry f) : index.program.keeps? filter f = some true := by
  obtain ⟨s, hs, hcrate⟩ := exists_symbolOf?_of_isEntry hf
  obtain ⟨s', hs', hkeeps⟩ := keeps?_eq hlimit hignore (index.inRange_program.lt_of_isEntry hf)
  rw [hkeeps, ← Option.some.inj (hs.symm.trans hs')]
  simp [hcrate]

end Index

/-! ## Runs -/

/-- **The entries of a loaded program are kept**, whether or not the toolchain is omitted. -/
theorem Program.Loaded.keeps?_of_isEntry {p : Program} {filter : Filter} {f : FunctionId} (h : p.Loaded)
    (hlimit : filter.limit = []) (hignore : filter.ignore = []) (hf : p.IsEntry f) :
    p.keeps? filter f = some true := by
  cases h with
  | manifest h => exact Manifest.keeps?_of_isEntry h hlimit hignore hf
  | index index => exact Index.keeps?_of_isEntry hlimit hignore hf

namespace Analysis

variable {p : Program} {s : Settings} {g : Graph}

/-- without a focus a run starts at the entries -/
theorem exists_entries_of_reduce (h : p.InRange) (hfocus : Text.trim s.focus = "") (hg : reduce p s = .ok g) :
    ∃ entries, p.entries s.tests = .ok entries ∧ p.ReducesTo (.roots entries) s.filter s.grouping g := by
  have hunfocused : Focus.resolve s.focus p.packages = .unfocused := by simp [Focus.resolve, hfocus]
  obtain ⟨focus, entries, hnone, hentries, hreduced⟩ := exists_stages_of_reduce h hg
  rw [hunfocused] at hnone
  cases hnone
  exact ⟨entries, hentries, hreduced⟩

theorem exists_text? (h : p.InRange) (hg : reduce p s = .ok g) : ∃ output, text? p g s = some output := by
  obtain ⟨hdrawing, document, hdocument⟩ := exists_texts h hg
  unfold text?
  cases s.format with
  | dot => exact hdrawing
  | json => exact ⟨_, by rw [Listing.json?, hdocument, Option.map_some]⟩

/-- a run with a graph gives its text, and says whether there is a node -/
theorem run_eq {output : String} (hg : reduce p s = .ok g) (houtput : text? p g s = some output) :
    run (.ok p) s = .ok (if g.isEmpty then .empty output else .rendered output) := by
  unfold run render
  simp only [Except.mapError, bind, Except.bind, hg, houtput, existing]
  rfl

/-- **A program is never hidden from itself.** Without a focus and without prefixes, if a loaded program reduces to a
graph, all the entries it starts from are nodes. So the graph is not empty, and the run says so. -/
theorem entries_shown (h : p.Loaded) (hfocus : Text.trim s.focus = "") (hlimit : s.filter.limit = [])
    (hignore : s.filter.ignore = []) (hg : reduce p s = .ok g) :
    ∃ entries, p.entries s.tests = .ok entries ∧ (∀ f ∈ entries, g.HasNode f) ∧ g.isEmpty = false ∧
      ∃ output, text? p g s = some output ∧ run (.ok p) s = .ok (.rendered output) := by
  obtain ⟨entries, hentries, hreduced⟩ := exists_entries_of_reduce h.inRange hfocus hg
  obtain ⟨hnonempty, hentry⟩ := Program.isEntry_of_entries hentries
  have hnode : ∀ f ∈ entries, g.HasNode f := fun f hf =>
    hreduced.hasNode_iff.2 ⟨Or.inl hf, h.keeps?_of_isEntry hlimit hignore (hentry f hf)⟩
  have hsome : g.isEmpty = false := by
    obtain ⟨f, hf⟩ := List.exists_mem_of_ne_nil entries hnonempty
    exact eq_false_of_ne_true fun hempty => Graph.isEmpty_iff.1 hempty f (hnode f hf)
  obtain ⟨output, houtput⟩ := exists_text? h.inRange hg
  exact ⟨entries, hentries, hnode, hsome, output, houtput, by simp [run_eq hg houtput, hsome]⟩

/-- a program in a package of one segment, as the packages of the toolchain are -/
def hello : Manifest where
  packages := [{ path := "app", name := some "main" }, { path := "fmt" }]
  functions := [{ id := "main", package := "app", name := "main" },
    { id := "print", package := "fmt", name := "Println" }]
  calls := [{ caller := "main", callee := "print" }]

/-- the toolchain is omitted, main is shown -/
theorem entries_shown_hello :
    ∃ p g, hello.link = .ok p ∧ p.Loaded ∧ p.entries false = .ok [0] ∧
      reduce p { focus := "", filter := { omitStd := true } } = .ok g ∧ g.HasNode 0 ∧ ¬ g.HasNode 1 ∧
        ∃ output, run (.ok p) { focus := "", filter := { omitStd := true } } = .ok (.rendered output) := by
  obtain ⟨p, hp⟩ : ∃ p, hello.link = .ok p ∧ p.entries false = .ok [0] ∧
      reduce p { focus := "", filter := { omitStd := true } } = .ok { nodes := [⟨0, []⟩], edges := [] } :=
    ⟨_, rfl, by decide +kernel, by decide +kernel⟩
  obtain ⟨hlink, hentries, hg⟩ := hp
  have hloaded : p.Loaded := .manifest hlink
  obtain ⟨entries, hentries', hnode, -, output, -, hrun⟩ := entries_shown hloaded (by decide) rfl rfl hg
  have hmain : entries = [0] := Except.ok.inj (hentries'.symm.trans hentries)
  refine ⟨p, _, hlink, hloaded, hentries, hg, hnode 0 (by simp [hmain]), ?_, output, hrun⟩
  simp [Graph.HasNode]

end Analysis

end CallAtlas
