/-
Programs whose ids exist.

A program may store an id before it exists, and looking up one that does not exist fails. `InRange` says that all stored
ids exist. In such a program nothing that is asked of a function fails: its package (`exists_packageOf?`), whether the
filter keeps it (`exists_keeps?`), its qualified name (`exists_qualifiedName?`), the package at the end of its chain of
wrappers (`exists_owningPackage?`) and its cluster keys (`exists_clusterKeys?`). Each way to add to a program keeps its
ids in range (`InRange.addPackage`, `InRange.addFunction` and those after).
-/
import CallAtlas.Reduction

namespace CallAtlas

/-- every root of a scope exists -/
def Scope.InRange (scope : Scope) (p : Program) : Prop :=
  ∀ r ∈ scope.shown, r < p.functions.length

instance (scope : Scope) (p : Program) : Decidable (scope.InRange p) := by
  unfold Scope.InRange; infer_instance

theorem Scope.inRange_focus (package : PackageId) (p : Program) : (Scope.focus package).InRange p := by
  intro r hr
  cases hr

namespace Program

/-- every id that a program stores exists -/
structure InRange (p : Program) : Prop where
  packages : ∀ f ∈ p.functions, f.package < p.packages.length
  wraps : ∀ f ∈ p.functions, ∀ target ∈ f.wraps, target < p.functions.length
  calls : ∀ c ∈ p.calls, c.caller < p.functions.length ∧ c.callee < p.functions.length
  entryPoints : ∀ f ∈ p.entryPoints, f < p.functions.length
  testEntryPoints : ∀ f ∈ p.testEntryPoints, f < p.functions.length

instance (p : Program) : Decidable p.InRange :=
  decidable_of_iff
    ((∀ f ∈ p.functions, f.package < p.packages.length) ∧
      (∀ f ∈ p.functions, ∀ target ∈ f.wraps, target < p.functions.length) ∧
      (∀ c ∈ p.calls, c.caller < p.functions.length ∧ c.callee < p.functions.length) ∧
      (∀ f ∈ p.entryPoints, f < p.functions.length) ∧ ∀ f ∈ p.testEntryPoints, f < p.functions.length)
    ⟨fun ⟨h1, h2, h3, h4, h5⟩ => ⟨h1, h2, h3, h4, h5⟩, fun ⟨h1, h2, h3, h4, h5⟩ => ⟨h1, h2, h3, h4, h5⟩⟩

variable {p : Program} {id : FunctionId}

/-! ## Entries -/

/-- execution or a test starts at a function -/
def IsEntry (p : Program) (id : FunctionId) : Prop :=
  id ∈ p.entryPoints ∨ id ∈ p.testEntryPoints

theorem InRange.lt_of_isEntry (h : p.InRange) (hid : p.IsEntry id) : id < p.functions.length :=
  hid.elim (h.entryPoints id) (h.testEntryPoints id)

theorem isEntry_of_entries {tests : Bool} {entries : List FunctionId} (h : p.entries tests = .ok entries) :
    entries ≠ [] ∧ ∀ id ∈ entries, p.IsEntry id := by
  unfold Program.entries at h
  split at h <;> split at h <;> cases h
  case isTrue.isFalse hne => exact ⟨hne, fun id => Or.inr⟩
  case isFalse.isFalse hne => exact ⟨hne, fun id => Or.inl⟩

/-- execution starts at functions that exist -/
theorem InRange.lt_of_entries (h : p.InRange) {tests : Bool} {entries : List FunctionId}
    (hentries : p.entries tests = .ok entries) : ∀ id ∈ entries, id < p.functions.length :=
  fun id hid => h.lt_of_isEntry ((isEntry_of_entries hentries).2 id hid)

/-! ## Functions and their packages -/

theorem InRange.exists_package (h : p.InRange) {f : Function} (hf : f ∈ p.functions) :
    ∃ k, p.packages[f.package]? = some k :=
  ⟨_, List.getElem?_eq_getElem (h.packages f hf)⟩

theorem InRange.exists_packageOf? (h : p.InRange) (hid : id < p.functions.length) :
    ∃ k, p.packageOf? id = some k := by
  obtain ⟨k, hk⟩ := h.exists_package (List.getElem_mem hid)
  exact ⟨k, by simp [packageOf?, hid, hk]⟩

theorem InRange.exists_keeps? (h : p.InRange) (filter : Filter) (hid : id < p.functions.length) :
    ∃ b, p.keeps? filter id = some b := by
  obtain ⟨k, hk⟩ := h.exists_packageOf? hid
  exact ⟨_, by rw [keeps?, hk, Option.map_some]⟩

theorem InRange.exists_qualifiedName? (h : p.InRange) (hid : id < p.functions.length) :
    ∃ name, p.qualifiedName? id = some name := by
  obtain ⟨k, hk⟩ := h.exists_package (List.getElem_mem hid)
  cases hr : p.functions[id].receiver with
  | none => exact ⟨k.path ++ "." ++ p.functions[id].name, by simp [qualifiedName?, hid, hk, hr]⟩
  | some receiver =>
    exact ⟨k.path ++ "." ++ receiver ++ "." ++ p.functions[id].name, by simp [qualifiedName?, hid, hk, hr]⟩

/-! ## Clusters -/

/-- what every wrapper wraps exists -/
def WrapsInRange (p : Program) : Prop :=
  ∀ f ∈ p.functions, ∀ target ∈ f.wraps, target < p.functions.length

instance (p : Program) : Decidable p.WrapsInRange := by
  unfold WrapsInRange; infer_instance

/-- a chain of wrappers ends in the package of some function, whatever was met before -/
theorem WrapsInRange.exists_chainPackage? (h : p.WrapsInRange) (fresh : List FunctionId)
    (hid : id < p.functions.length) : ∃ f ∈ p.functions, p.chainPackage? fresh id = some f.package := by
  fun_induction chainPackage? p fresh id with
  | case1 fresh id hnone => simp [hid] at hnone
  | case2 fresh id f hf target hwraps hsyn hfresh ih => exact ih (h f (List.mem_of_getElem? hf) target hwraps)
  | case3 fresh id f hf target hwraps hsyn hmet => exact ⟨f, List.mem_of_getElem? hf, rfl⟩
  | case4 fresh id f hf hend => exact ⟨f, List.mem_of_getElem? hf, rfl⟩

theorem InRange.exists_owningPackage? (h : p.InRange) (hid : id < p.functions.length) :
    ∃ k, p.owningPackage? id = some k ∧ k < p.packages.length := by
  obtain ⟨f, hf, howner⟩ := WrapsInRange.exists_chainPackage? h.wraps (List.range p.functions.length) hid
  exact ⟨f.package, howner, h.packages f hf⟩

theorem InRange.exists_packageKey? (h : p.InRange) (hid : id < p.functions.length) :
    ∃ key, p.packageKey? id = some key := by
  obtain ⟨k, hk, hlt⟩ := h.exists_owningPackage? hid
  exact ⟨.package p.packages[k].path, by simp [packageKey?, hk, hlt]⟩

theorem InRange.exists_typeKeys? (h : p.InRange) (hid : id < p.functions.length) :
    ∃ keys, p.typeKeys? id = some keys := by
  obtain ⟨k, hk⟩ := h.exists_package (List.getElem_mem hid)
  cases hr : p.functions[id].receiver with
  | none => exact ⟨[], by simp [typeKeys?, hid, hr]⟩
  | some receiver => exact ⟨[.type k.path receiver], by simp [typeKeys?, hid, hr, hk]⟩

theorem InRange.exists_clusterKeys? (h : p.InRange) (grouping : Grouping) (hid : id < p.functions.length) :
    ∃ keys, p.clusterKeys? grouping id = some keys := by
  obtain ⟨key, hkey⟩ := h.exists_packageKey? hid
  obtain ⟨keys, hkeys⟩ := h.exists_typeKeys? hid
  cases hp : grouping.byPackage <;> cases ht : grouping.byType <;> simp [clusterKeys?, hp, ht, hkey, hkeys]

/-! ## Building -/

/-- a program with the same functions and calls, and with no fewer packages -/
theorem InRange.mono {q : Program} (h : p.InRange) (hpackages : p.packages.length ≤ q.packages.length)
    (hfunctions : q.functions = p.functions) (hcalls : q.calls = p.calls) (hentries : q.entryPoints = p.entryPoints)
    (htests : q.testEntryPoints = p.testEntryPoints) : q.InRange where
  packages f hf := Nat.lt_of_lt_of_le (h.packages f (hfunctions ▸ hf)) hpackages
  wraps f hf target htarget := hfunctions ▸ h.wraps f (hfunctions ▸ hf) target htarget
  calls c hc := hfunctions ▸ h.calls c (hcalls ▸ hc)
  entryPoints f hf := hfunctions ▸ h.entryPoints f (hentries ▸ hf)
  testEntryPoints f hf := hfunctions ▸ h.testEntryPoints f (htests ▸ hf)

theorem functions_addPackage (p : Program) (path name : String) :
    (p.addPackage path name).1.functions = p.functions := by
  unfold addPackage
  split <;> rfl

theorem InRange.addPackage (h : p.InRange) (path name : String) :
    (p.addPackage path name).1.InRange ∧ (p.addPackage path name).2 < (p.addPackage path name).1.packages.length := by
  unfold Program.addPackage
  split
  · rename_i id hid
    exact ⟨h, (List.findIdx?_eq_some_iff_getElem.1 hid).1⟩
  · exact ⟨h.mono (by simp) rfl rfl rfl rfl, by simp⟩

theorem InRange.renamePackage? {q : Program} {name : String} (h : p.InRange)
    (hrename : p.renamePackage? id name = some q) : q.InRange ∧ q.functions = p.functions := by
  unfold Program.renamePackage? at hrename
  split at hrename
  · cases hrename
    exact ⟨h.mono (by simp) rfl rfl rfl rfl, rfl⟩
  · cases hrename

/-- a new function may forward to itself -/
theorem InRange.addFunction {f : Function} (h : p.InRange) (hpackage : f.package < p.packages.length)
    (hwraps : ∀ target ∈ f.wraps, target ≤ p.functions.length) : (p.addFunction f).1.InRange := by
  have hle : ∀ {i}, i < p.functions.length → i < (p.functions ++ [f]).length := by simp; omega
  constructor
  case packages =>
    intro g hg
    rcases List.mem_append.1 hg with hg | hg
    · exact h.packages g hg
    · exact List.mem_singleton.1 hg ▸ hpackage
  case wraps =>
    intro g hg target htarget
    rcases List.mem_append.1 hg with hg | hg
    · exact hle (h.wraps g hg target htarget)
    · rw [List.mem_singleton.1 hg] at htarget
      simpa [Program.addFunction, Nat.lt_succ_iff] using hwraps target htarget
  case calls => exact fun c hc => (h.calls c hc).imp hle hle
  case entryPoints => exact fun g hg => hle (h.entryPoints g hg)
  case testEntryPoints => exact fun g hg => hle (h.testEntryPoints g hg)

theorem InRange.addCall {c : Call} (h : p.InRange) (hcaller : c.caller < p.functions.length)
    (hcallee : c.callee < p.functions.length) : (p.addCall c).InRange where
  packages := h.packages
  wraps := h.wraps
  calls := List.forall_mem_append.2 ⟨h.calls, by simpa using ⟨hcaller, hcallee⟩⟩
  entryPoints := h.entryPoints
  testEntryPoints := h.testEntryPoints

theorem InRange.addEntryPoint (h : p.InRange) (hid : id < p.functions.length) : (p.addEntryPoint id).InRange where
  packages := h.packages
  wraps := h.wraps
  calls := h.calls
  entryPoints f hf := (mem_addNew.1 hf).elim (h.entryPoints f) fun hf => hf ▸ hid
  testEntryPoints := h.testEntryPoints

theorem InRange.addTestEntryPoint (h : p.InRange) (hid : id < p.functions.length) :
    (p.addTestEntryPoint id).InRange where
  packages := h.packages
  wraps := h.wraps
  calls := h.calls
  entryPoints := h.entryPoints
  testEntryPoints f hf := (mem_addNew.1 hf).elim (h.testEntryPoints f) fun hf => hf ▸ hid

theorem InRange.addOwnModule (h : p.InRange) (path : String) : (p.addOwnModule path).InRange :=
  h.mono (Nat.le_refl _) rfl rfl rfl rfl

theorem InRange.addLibraryModule (h : p.InRange) (path : String) : (p.addLibraryModule path).InRange :=
  h.mono (Nat.le_refl _) rfl rfl rfl rfl

/-- steps that add no function, one after another -/
theorem InRange.foldl {α : Type} {step : Program → α → Program} {as : List α} (h : p.InRange)
    (hstep : ∀ q : Program, q.InRange → q.functions = p.functions → ∀ a ∈ as,
      (step q a).InRange ∧ (step q a).functions = p.functions) :
    (as.foldl step p).InRange ∧ (as.foldl step p).functions = p.functions := by
  induction as generalizing p with
  | nil => exact ⟨h, rfl⟩
  | cons a as ih =>
    obtain ⟨ha, has⟩ := List.forall_mem_cons.1 (hstep p h rfl)
    obtain ⟨hrest, hsame⟩ := ih ha.1 fun q hq hqf b hb => by
      rw [ha.2] at hqf ⊢
      exact hstep q hq hqf b (List.mem_cons_of_mem a hb)
    exact ⟨hrest, hsame.trans ha.2⟩

end Program

end CallAtlas
