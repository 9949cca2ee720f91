/-
The crates of an index, and what is left when the toolchain is omitted.

A filter decides by the path of a package alone, and takes a path of one segment for a package of the toolchain unless
it is a module of the program or a library. Symbols of the toolchain have such paths, and so do symbols at the root of
any other crate.
- `keepsPath_packagePath_iff`: with all other crates among the modules and none of the toolchain, the filter decides by
  the crate of a symbol.
- `mem_modules_iff`: in the program of an index the modules are just these crates.
- `omits_toolchain`: so what is omitted is the toolchain and nothing else.
-/
import CallAtlas.Proofs.IndexReading
import CallAtlas.Selection

namespace CallAtlas

/-! ## Paths of symbols -/

namespace FunctionSymbol

variable {s : FunctionSymbol}

theorem isToolchain_iff : s.isToolchain = true ↔ s.crate ∈ toolchainCrates := by
  simp [isToolchain]

theorem slash_not_mem_of_toolchain : ∀ c ∈ toolchainCrates, '/' ∉ c.toList := by
  decide

theorem packagePath_of_toolchain (h : s.crate ∈ toolchainCrates) : s.packagePath = s.crate := by
  simp [packagePath, isToolchain_iff.2 h]

theorem packagePath_of_root (h : s.spaces = []) : s.packagePath = s.crate := by
  simp [packagePath, h]

theorem slash_mem_packagePath (h : s.crate ∉ toolchainCrates) (hspaces : s.spaces ≠ []) :
    '/' ∈ s.packagePath.toList := by
  have htool : s.isToolchain = false := by simpa [isToolchain] using h
  simp [packagePath, htool, hspaces]

/-- the filter without prefixes omits the symbols of the toolchain, if it is told of all other crates -/
theorem keepsPath_packagePath_iff {filter : Filter} {own libraries : List String} (hlimit : filter.limit = [])
    (hignore : filter.ignore = []) (htool : ∀ c ∈ toolchainCrates, ¬ (c ∈ own ∨ c ∈ libraries))
    (hother : s.crate ∉ toolchainCrates → s.crate ∈ own ∨ s.crate ∈ libraries) :
    filter.keepsPath own libraries s.packagePath = true ↔ filter.omitStd = false ∨ s.crate ∉ toolchainCrates := by
  rw [Filter.keepsPath_iff hlimit hignore]
  refine or_congr_right ?_
  by_cases hcrate : s.crate ∈ toolchainCrates
  · rw [packagePath_of_toolchain hcrate]
    exact iff_of_false (not_or.2 ⟨slash_not_mem_of_toolchain _ hcrate, htool _ hcrate⟩) fun h => h hcrate
  · refine iff_of_true ?_ hcrate
    by_cases hspaces : s.spaces = []
    · rw [packagePath_of_root hspaces]
      exact Or.inr (hother hcrate)
    · exact Or.inl (slash_mem_packagePath hcrate hspaces)

end FunctionSymbol

/-! ## Modules of an index -/

namespace Index

variable {index : Index} {f : FunctionId} {s : FunctionSymbol} {c : String}

open FunctionSymbol (toolchainCrates)

/-- what the symbol of a function says -/
def symbolOf? (index : Index) (f : FunctionId) : Option FunctionSymbol :=
  index.functionSymbols[f]?.bind FunctionSymbol.ofText?

/-- every function of the program has a symbol, and is in the package of that symbol -/
theorem exists_symbolOf? (hf : f < index.program.functions.length) :
    ∃ s k, index.symbolOf? f = some s ∧ index.program.packageOf? f = some k ∧ k.path = s.packagePath := by
  have hall := index.presents_functions
  have hf' : f < index.functionSymbols.length := hall.length_eq ▸ hf
  obtain ⟨s, hs, hpath, -⟩ := hall.get hf' hf
  rw [List.getElem?_map] at hpath
  obtain ⟨k, hk, hpath⟩ := Option.map_eq_some_iff.1 hpath
  refine ⟨s, k, ?_, ?_, hpath⟩
  · rw [symbolOf?, List.getElem?_eq_getElem hf', Option.bind_some]
    exact hs
  · rw [Program.packageOf?, List.getElem?_eq_getElem hf]
    exact hk

theorem exists_symbolOf?_iff :
    (∃ f s, index.symbolOf? f = some s ∧ s.crate = c) ↔
      ∃ symbol ∈ index.functionSymbols, ∃ s, FunctionSymbol.ofText? symbol = some s ∧ s.crate = c := by
  simp only [symbolOf?, Option.bind_eq_some_iff, List.mem_iff_getElem?]
  grind

theorem mem_ownModules_iff :
    c ∈ index.program.ownModules ↔
      c ∉ toolchainCrates ∧ ∃ o ∈ index.definitions, ∃ s, FunctionSymbol.ofText? o.symbol = some s ∧ s.crate = c := by
  simpa using index.hasCrates_ownModules c

/-- the modules of the program and the libraries are the crates of its functions outside the toolchain -/
theorem mem_modules_iff :
    c ∈ index.program.ownModules ∨ c ∈ index.program.libraryModules ↔
      c ∉ toolchainCrates ∧ ∃ f s, index.symbolOf? f = some s ∧ s.crate = c := by
  have hown : c ∈ index.program.ownModules → c ∉ toolchainCrates ∧
      ∃ symbol ∈ index.functionSymbols, ∃ s, FunctionSymbol.ofText? symbol = some s ∧ s.crate = c := by
    intro h
    obtain ⟨htool, o, ho, s, hs, hc⟩ := mem_ownModules_iff.1 h
    refine ⟨htool, o.symbol, List.mem_eraseDups.2 ?_, s, hs, hc⟩
    exact List.mem_append_left _ (List.mem_map_of_mem ho)
  rw [index.mem_libraryModules, exists_symbolOf?_iff]
  refine ⟨fun h => h.elim hown And.left, fun h => ?_⟩
  by_cases hmem : c ∈ index.program.ownModules
  · exact Or.inl hmem
  · exact Or.inr ⟨h, hmem⟩

/-- the filter without prefixes decides by the crate of a function -/
theorem keeps?_eq {filter : Filter} (hlimit : filter.limit = []) (hignore : filter.ignore = [])
    (hf : f < index.program.functions.length) :
    ∃ s, index.symbolOf? f = some s ∧
      index.program.keeps? filter f = some (!filter.omitStd || decide (s.crate ∉ toolchainCrates)) := by
  obtain ⟨s, k, hs, hk, hpath⟩ := exists_symbolOf? hf
  refine ⟨s, hs, ?_⟩
  have hiff := FunctionSymbol.keepsPath_packagePath_iff (s := s) hlimit hignore
    (fun c hc hmem => (mem_modules_iff.1 hmem).1 hc) (fun hcrate => mem_modules_iff.2 ⟨hcrate, f, s, hs, rfl⟩)
  rw [Program.keeps?, hk, Option.map_some, hpath, Option.some.injEq, Bool.eq_iff_iff, hiff]
  simp

end Index

end CallAtlas
