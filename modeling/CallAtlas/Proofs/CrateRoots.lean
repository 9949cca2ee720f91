/-
Where the program of an index starts.

An entry point is known by its symbol: `main`, in no namespace and in no type, of a crate outside the toolchain. What a
symbol says of namespaces and types is put together from its path, one descriptor after another.
- `spaces_foldl_enter`, `inImpl_foldl_enter` and `receiver_foldl_enter`: the three parts of a place, each from the path
  alone.
- `starts_at_mains`: the entry points are the functions whose definitions have such a path.
- `nested_main_starts`: a function that is nested in another one can have such a path. It starts the program, although
  it is not at the root of its crate.
-/
import CallAtlas.Proofs.Crates

namespace CallAtlas

namespace FunctionSymbol

variable {ds : List Descriptor} {d : Descriptor}

/-! ## Places along a path -/

/-- the last type of a path is an `impl` block, and no bracket has named its type -/
def Unnamed (ds : List Descriptor) : Prop :=
  ∃ before after, ds = before ++ ⟨.type, "impl"⟩ :: after ∧ ∀ d ∈ after, d.kind ≠ .type ∧ d.kind ≠ .typeParameter

/-- a descriptor after a path is a type, or the bracket that names the type of an `impl` block -/
def Opens (ds : List Descriptor) (d : Descriptor) : Prop :=
  d.kind = .type ∨ d.kind = .typeParameter ∧ Unnamed ds

/-- a descriptor leads out of all types around it -/
def Closes (d : Descriptor) : Prop :=
  d.kind = .space ∨ d.kind = .method

/-- a path leads out of every type that it enters -/
def OutsideTypes (ds : List Descriptor) : Prop :=
  ∀ before d after, ds = before ++ d :: after → Opens before d → ∃ x ∈ after, Closes x

/-- where a list with one element more can be split -/
theorem concat_eq_append_cons {α : Type} {xs before after : List α} {x a : α} :
    xs ++ [x] = before ++ a :: after ↔
      (xs = before ∧ x = a ∧ after = []) ∨ ∃ rest, after = rest ++ [x] ∧ xs = before ++ a :: rest := by
  constructor
  · intro h
    rcases List.eq_nil_or_concat after with rfl | ⟨rest, y, rfl⟩
    · obtain ⟨hxs, hx⟩ := List.append_inj' h rfl
      exact Or.inl ⟨hxs, List.singleton_inj.1 hx, rfl⟩
    · rw [List.concat_eq_append, ← List.cons_append, ← List.append_assoc] at h
      obtain ⟨hxs, hx⟩ := List.append_inj' h rfl
      exact Or.inr ⟨rest, by rw [List.concat_eq_append, hx], hxs⟩
  · rintro (⟨rfl, rfl, rfl⟩ | ⟨rest, rfl, rfl⟩)
    · rfl
    · simp

theorem unnamed_concat :
    Unnamed (ds ++ [d]) ↔ d = ⟨.type, "impl"⟩ ∨ (d.kind ≠ .type ∧ d.kind ≠ .typeParameter) ∧ Unnamed ds := by
  constructor
  · rintro ⟨before, after, hsplit, hafter⟩
    rcases concat_eq_append_cons.1 hsplit with ⟨rfl, rfl, rfl⟩ | ⟨rest, rfl, rfl⟩
    · exact Or.inl rfl
    · obtain ⟨hrest, hlast⟩ := List.forall_mem_append.1 hafter
      exact Or.inr ⟨hlast d (List.mem_singleton.2 rfl), before, rest, rfl, hrest⟩
  · rintro (rfl | ⟨hd, before, after, rfl, hafter⟩)
    · exact ⟨ds, [], rfl, by simp⟩
    · exact ⟨before, after ++ [d], by simp, List.forall_mem_append.2 ⟨hafter, by simpa using hd⟩⟩

theorem not_opens_of_closes (h : Closes d) : ¬ Opens ds d := by
  rintro (hd | ⟨hd, -⟩) <;> simp [Closes, hd] at h

theorem outsideTypes_concat : OutsideTypes (ds ++ [d]) ↔ Closes d ∨ ¬ Opens ds d ∧ OutsideTypes ds := by
  constructor
  · intro h
    by_cases hd : Closes d
    · exact Or.inl hd
    · refine Or.inr ⟨fun hopens => ?_, fun before e after hsplit hopens => ?_⟩
      · obtain ⟨x, hx, -⟩ := h ds d [] rfl hopens
        cases hx
      · obtain ⟨x, hx, hcloses⟩ := h before e (after ++ [d]) (by simp [hsplit]) hopens
        rcases List.mem_append.1 hx with hx | hx
        · exact ⟨x, hx, hcloses⟩
        · exact absurd (List.mem_singleton.1 hx ▸ hcloses) hd
  · rintro h before e after hsplit hopens
    rcases concat_eq_append_cons.1 hsplit with ⟨rfl, rfl, rfl⟩ | ⟨rest, rfl, rfl⟩
    · rcases h with hd | ⟨hd, -⟩
      · exact absurd hopens (not_opens_of_closes hd)
      · exact absurd hopens hd
    · rcases h with hd | ⟨-, hds⟩
      · exact ⟨d, by simp, hd⟩
      · obtain ⟨x, hx, hcloses⟩ := hds before e rest rfl hopens
        exact ⟨x, List.mem_append_left _ hx, hcloses⟩

theorem spaces_foldl_enter (ds : List Descriptor) :
    (ds.foldl Place.enter {}).spaces = (ds.filter fun d => d.kind = .space).map Descriptor.name := by
  induction ds using List.reverseRecOn with
  | nil => rfl
  | append_singleton ds d ih =>
    rw [List.foldl_concat, List.filter_append, List.map_append, ← ih]
    obtain ⟨kind, name⟩ := d
    cases kind <;> simp [Place.enter]
    split <;> rfl

theorem inImpl_foldl_enter (ds : List Descriptor) : (ds.foldl Place.enter {}).inImpl = true ↔ Unnamed ds := by
  induction ds using List.reverseRecOn with
  | nil => simp [Unnamed]
  | append_singleton ds d ih =>
    rw [List.foldl_concat, unnamed_concat, ← ih]
    obtain ⟨kind, name⟩ := d
    cases kind <;> simp [Place.enter]
    split <;> simp_all

theorem receiver_foldl_enter (ds : List Descriptor) :
    (ds.foldl Place.enter {}).receiver = none ↔ OutsideTypes ds := by
  induction ds using List.reverseRecOn with
  | nil => simp [OutsideTypes]
  | append_singleton ds d ih =>
    rw [List.foldl_concat, outsideTypes_concat, ← ih, Opens, ← inImpl_foldl_enter]
    obtain ⟨kind, name⟩ := d
    cases kind <;> simp [Place.enter, Closes]
    split <;> simp_all

/-! ## Symbols of entry points -/

/-- crate and path of a symbol -/
def path? (symbol : String) : Option (String × List Descriptor) := do
  let (crate, path) ← fields? symbol
  return (crate, ← descriptors? path)

theorem exists_of_ofDescriptors? {crate : String} {s : FunctionSymbol} (h : ofDescriptors? crate ds = some s) :
    ∃ before, ds = before ++ [⟨.method, s.name⟩] ∧ s.crate = crate ∧
      s.spaces = (before.foldl Place.enter {}).spaces ∧ s.receiver = (before.foldl Place.enter {}).receiver := by
  unfold ofDescriptors? at h
  split at h
  next name hlast =>
    cases h
    exact ⟨ds.dropLast, (List.dropLast_append_getLast? _ hlast).symm, rfl, rfl, rfl⟩
  next => cases h

/-- a function symbol has a path that ends in a method, and says where that method stands -/
theorem exists_path_of_ofText? {symbol : String} {s : FunctionSymbol} (h : ofText? symbol = some s) :
    ∃ before, path? symbol = some (s.crate, before ++ [⟨.method, s.name⟩]) ∧
      s.spaces = (before.foldl Place.enter {}).spaces ∧ s.receiver = (before.foldl Place.enter {}).receiver := by
  unfold ofText? at h
  split at h
  · cases h
  · obtain ⟨⟨crate, path⟩, hfields, h⟩ := Option.bind_eq_some_iff.1 h
    dsimp only at h
    split at h
    · cases h
    · obtain ⟨ds, hds, h⟩ := Option.bind_eq_some_iff.1 h
      obtain ⟨before, rfl, rfl, hspaces, hreceiver⟩ := exists_of_ofDescriptors? h
      exact ⟨before, by simp [path?, hfields, hds], hspaces, hreceiver⟩

/-- the path of a `main` function in no namespace and in no type -/
def IsMainPath (ds : List Descriptor) : Prop :=
  ∃ before, ds = before ++ [⟨.method, "main"⟩] ∧ (∀ d ∈ before, d.kind ≠ .space) ∧ OutsideTypes before

theorem isEntryPoint_iff {symbol : String} {s : FunctionSymbol} (h : ofText? symbol = some s) :
    s.isEntryPoint = true ↔ ∃ crate ds, path? symbol = some (crate, ds) ∧ crate ∉ toolchainCrates ∧ IsMainPath ds := by
  obtain ⟨before, hpath, hspaces, hreceiver⟩ := exists_path_of_ofText? h
  have hspaces : s.spaces = [] ↔ ∀ d ∈ before, d.kind ≠ .space := by
    rw [hspaces, spaces_foldl_enter]
    simp [List.filter_eq_nil_iff]
  have hreceiver : s.receiver = none ↔ OutsideTypes before := by
    rw [hreceiver, receiver_foldl_enter]
  have hentry : s.isEntryPoint = true ↔
      s.crate ∉ toolchainCrates ∧ (s.spaces = [] ∧ s.receiver = none) ∧ s.name = "main" := by
    simp [isEntryPoint, isToolchain, and_assoc]
  rw [hentry, hspaces, hreceiver]
  constructor
  · rintro ⟨hcrate, hplace, hname⟩
    exact ⟨_, _, hpath, hcrate, before, by rw [hname], hplace⟩
  · rintro ⟨crate, ds, hpath', hcrate, before', rfl, hplace⟩
    obtain ⟨rfl, hds⟩ := Prod.mk.inj (Option.some.inj (hpath.symm.trans hpath'))
    obtain ⟨rfl, hmain⟩ := List.append_inj' hds rfl
    exact ⟨hcrate, hplace, congrArg Descriptor.name (List.singleton_inj.1 hmain)⟩

end FunctionSymbol

/-! ## Entry points of an index -/

namespace Index

open FunctionSymbol (path? toolchainCrates IsMainPath)

/-- **Where the program of an index starts.** At the functions that are defined as `main` in a crate outside the
toolchain, in no namespace and in no type, each listed once. A path with nothing but `main` is such a path. One that goes
through other functions can be one too. -/
theorem starts_at_mains (index : Index) :
    index.program.entryPoints.Nodup ∧
      (∀ f, f ∈ index.program.entryPoints ↔
        ∃ o ∈ index.definitions, index.functionSymbols[f]? = some o.symbol ∧
          ∃ crate ds, path? o.symbol = some (crate, ds) ∧ crate ∉ toolchainCrates ∧ IsMainPath ds) ∧
      ∀ f, ∀ o ∈ index.definitions, index.functionSymbols[f]? = some o.symbol →
        ∀ crate, path? o.symbol = some (crate, [⟨.method, "main"⟩]) → crate ∉ toolchainCrates →
          f ∈ index.program.entryPoints := by
  obtain ⟨hnodup, hmem⟩ := index.hasDefined_entryPoints
  have hiff : ∀ f, f ∈ index.program.entryPoints ↔
      ∃ o ∈ index.definitions, index.functionSymbols[f]? = some o.symbol ∧
        ∃ crate ds, path? o.symbol = some (crate, ds) ∧ crate ∉ toolchainCrates ∧ IsMainPath ds := by
    intro f
    rw [hmem]
    refine exists_congr fun o => and_congr_right fun ho => and_congr_right fun _ => ?_
    obtain ⟨s, hs⟩ := Option.isSome_iff_exists.1 (index.mem_definitions.1 ho).2.2
    rw [← FunctionSymbol.isEntryPoint_iff hs, hs]
    simp
  refine ⟨hnodup, hiff, fun f o ho hf crate hpath hcrate => ?_⟩
  exact (hiff f).2 ⟨o, ho, hf, crate, _, hpath, hcrate, [], rfl, by simp, by simp [FunctionSymbol.OutsideTypes]⟩

/-- a crate with `main` and with a helper, in whose body there is another `main` -/
def nestedMain : Index where
  documents := [{
    path := "src/main.rs"
    occurrences := [
      { symbol := "rust-analyzer cargo app 0.1.0 main().", range := [0, 3, 7], enclosingRange := [0, 0, 4, 1],
        roles := 1 },
      { symbol := "rust-analyzer cargo app 0.1.0 helper().", range := [6, 3, 9], enclosingRange := [6, 0, 12, 1],
        roles := 1 },
      { symbol := "rust-analyzer cargo app 0.1.0 helper().main().", range := [7, 7, 11],
        enclosingRange := [7, 4, 9, 5], roles := 1 }] }]

/-- **A nested `main` starts the program.** Its path goes through the helper, and it is an entry point all the same. -/
theorem nested_main_starts :
    nestedMain.program.entryPoints = [0, 2] ∧
      nestedMain.functionSymbols[2]? = some "rust-analyzer cargo app 0.1.0 helper().main()." ∧
      path? "rust-analyzer cargo app 0.1.0 helper().main()." = some ("app", [⟨.method, "helper"⟩, ⟨.method, "main"⟩]) ∧
      ¬ (2 ∈ nestedMain.program.entryPoints ↔
        ∃ o ∈ nestedMain.definitions, nestedMain.functionSymbols[2]? = some o.symbol ∧
          ∃ crate, path? o.symbol = some (crate, [⟨.method, "main"⟩]) ∧ crate ∉ toolchainCrates) := by
  have hentries : nestedMain.program.entryPoints = [0, 2] := by decide +kernel
  have hsymbol : nestedMain.functionSymbols[2]? = some "rust-analyzer cargo app 0.1.0 helper().main()." := by
    decide +kernel
  have hpath : path? "rust-analyzer cargo app 0.1.0 helper().main()." =
      some ("app", [⟨.method, "helper"⟩, ⟨.method, "main"⟩]) := by
    decide +kernel
  refine ⟨hentries, hsymbol, hpath, fun hiff => ?_⟩
  obtain ⟨o, -, ho, crate, hmain, -⟩ := hiff.1 (by simp [hentries])
  rw [← Option.some.inj (hsymbol.symm.trans ho), hpath] at hmain
  simp at hmain

end Index

end CallAtlas
