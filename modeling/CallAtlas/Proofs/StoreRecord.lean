/-
What a store keeps of all that was done to it.

`Adds` says what one operation does: each list of the program gets what the operation brings, at its end, and the index
goes on answering as the packages do. So a store has a record of its whole run (`Records`), whatever the operations.
- `Indexed.addPackage`: looking up in the index is looking through the packages, and stays so.
- `adds_of_step?`: what an operation adds; nothing that was there before moves.
- `exists_run?_iff`: a run fails only when a package is renamed that no operation before has added.
- `run_records`: paths are kept once each and found again, ids keep their meaning, calls keep their order, and entries and
  modules are kept once each in the order in which they first came.
-/
import Mathlib.Data.List.Forall2
import Mathlib.Data.List.Induction
import CallAtlas.Proofs.FocusResolution
import CallAtlas.Store

namespace CallAtlas

/-! ## What operations bring -/

namespace Operation

def path? : Operation → Option String
  | .addPackage path _ => some path
  | _ => none

/-- the package that is to be renamed -/
def renamed? : Operation → Option PackageId
  | .renamePackage id _ => some id
  | _ => none

def function? : Operation → Option Function
  | .addFunction f => some f
  | _ => none

def call? : Operation → Option Call
  | .addCall c => some c
  | _ => none

def entryPoint? : Operation → Option FunctionId
  | .addEntryPoint f => some f
  | _ => none

def testEntryPoint? : Operation → Option FunctionId
  | .addTestEntryPoint f => some f
  | _ => none

def ownModule? : Operation → Option String
  | .addOwnModule path => some path
  | _ => none

def libraryModule? : Operation → Option String
  | .addLibraryModule path => some path
  | _ => none

/-- every package that is renamed has been added before -/
def RenamesKnown (ops : List Operation) : Prop :=
  ∀ i < ops.length, ∀ id ∈ (ops[i]?).bind renamed?, id < ((ops.take i).filterMap path?).eraseDups.length

instance (ops : List Operation) : Decidable (RenamesKnown ops) := by
  unfold RenamesKnown; infer_instance

theorem renamesKnown_concat {ops : List Operation} {op : Operation} :
    RenamesKnown (ops ++ [op]) ↔
      RenamesKnown ops ∧ ∀ id ∈ op.renamed?, id < (ops.filterMap path?).eraseDups.length := by
  constructor
  · intro h
    refine ⟨fun i hi id hid => ?_, fun id hid => ?_⟩
    · have hat := h i (by simp; omega) id (by rwa [List.getElem?_append_left hi])
      rwa [List.take_append_of_le_length (Nat.le_of_lt hi)] at hat
    · simpa using h ops.length (by simp) id (by simpa using hid)
  · rintro ⟨hops, hop⟩ i hi id hid
    rcases Nat.lt_or_ge i ops.length with hlt | hge
    · rw [List.getElem?_append_left hlt] at hid
      rw [List.take_append_of_le_length (Nat.le_of_lt hlt)]
      exact hops i hlt id hid
    · obtain rfl : i = ops.length := by
        simp only [List.length_append, List.length_singleton] at hi
        omega
      simpa using hop id (by simpa using hid)

end Operation

/-- values kept once each, and perhaps one value more -/
theorem eraseDups_append_toList {α : Type} [DecidableEq α] (xs : List α) (a : Option α) :
    (xs ++ a.toList).eraseDups = a.elim xs.eraseDups (addNew xs.eraseDups) := by
  cases a with
  | none => simp
  | some a => exact eraseDups_concat xs a

theorem filterMap_concat {α β : Type} (f : α → Option β) (xs : List α) (a : α) :
    (xs ++ [a]).filterMap f = xs.filterMap f ++ (f a).toList := by
  cases h : f a <;> simp [h]

namespace Store

variable {s s' : Store} {op : Operation} {ops : List Operation} {id : Option Nat} {ids : List (Option Nat)}

/-! ## One operation -/

/-- import paths of the packages of a store -/
abbrev paths (s : Store) : List String := s.program.packages.map Package.path

/-- the index answers as the packages do -/
def Indexed (s : Store) : Prop :=
  ∀ path, s.packageByPath? path = Focus.findByPath path s.program.packages

/-- an id denotes what an operation has added -/
def Denotes (s : Store) : Operation → Option Nat → Prop
  | .addPackage path _, id => ∃ i, id = some i ∧ Focus.At s.program.packages i path
  | .addFunction f, id => ∃ i, id = some i ∧ s.program.functions[i]? = some f
  | _, id => id = none

/-- what an operation does to a store -/
structure Adds (s : Store) (op : Operation) (s' : Store) (id : Option Nat) : Prop where
  indexed : s'.Indexed
  denotes : s'.Denotes op id
  paths : s'.paths = op.path?.elim s.paths (addNew s.paths)
  functions : s'.program.functions = s.program.functions ++ op.function?.toList
  calls : s'.program.calls = s.program.calls ++ op.call?.toList
  entryPoints : s'.program.entryPoints = op.entryPoint?.elim s.program.entryPoints (addNew s.program.entryPoints)
  testEntryPoints :
    s'.program.testEntryPoints = op.testEntryPoint?.elim s.program.testEntryPoints (addNew s.program.testEntryPoints)
  ownModules : s'.program.ownModules = op.ownModule?.elim s.program.ownModules (addNew s.program.ownModules)
  libraryModules :
    s'.program.libraryModules = op.libraryModule?.elim s.program.libraryModules (addNew s.program.libraryModules)

theorem findByPath_eq (path : String) (packages : List Package) :
    Focus.findByPath path packages = (packages.map Package.path).findIdx? fun q => q = path := by
  rw [List.findIdx?_map]
  rfl

theorem at_iff {packages : List Package} {i : Nat} {path : String} :
    Focus.At packages i path ↔ (packages.map Package.path)[i]? = some path := by
  rw [List.getElem?_map, Option.map_eq_some_iff]
  rfl

/-- the packages under their old paths are found as before -/
theorem Indexed.congr (h : s.Indexed) (hindex : s'.index = s.index) (hpaths : s'.paths = s.paths) : s'.Indexed := by
  intro path
  rw [findByPath_eq, show s'.program.packages.map Package.path = _ from hpaths, ← findByPath_eq, ← h path,
    packageByPath?, hindex, packageByPath?]

/-- **The index is a shortcut.** With it a package is registered as it would be by looking through all packages, and it
goes on answering as the packages do. -/
theorem Indexed.addPackage (h : s.Indexed) (path name : String) :
    (s.addPackage path name).1.program = (s.program.addPackage path name).1 ∧
      (s.addPackage path name).2 = (s.program.addPackage path name).2 ∧ (s.addPackage path name).1.Indexed := by
  have hlookup : s.packageByPath? path = s.program.packageByPath? path := h path
  unfold Store.addPackage Program.addPackage
  rw [hlookup]
  cases hfind : s.program.packageByPath? path with
  | some id => exact ⟨rfl, rfl, h⟩
  | none =>
    refine ⟨rfl, rfl, fun path' => ?_⟩
    have hnone : Focus.findByPath path s.program.packages = none := hfind
    have hbefore : s.index.lookup path' = Focus.findByPath path' s.program.packages := h path'
    simp only [findByPath_eq, packageByPath?, List.map_append, List.findIdx?_append, List.lookup_cons]
      at hnone hbefore ⊢
    by_cases hpath : path' = path
    · simp [hpath, hnone]
    · simp [Ne.symm hpath, hbefore, beq_false_of_ne hpath]

/-- **What an operation adds.** -/
theorem adds_of_step? (h : s.Indexed) (hstep : s.step? op = some (s', id)) : s.Adds op s' id := by
  cases op with
  | addPackage path name =>
    obtain ⟨rfl, rfl⟩ : (s.addPackage path name).1 = s' ∧ some (s.addPackage path name).2 = id := by
      simpa [step?] using hstep
    obtain ⟨hprogram, hid, hindexed⟩ := h.addPackage path name
    obtain ⟨packages, i, hadd, hat⟩ := s.program.addPackage_eq path name
    have hpaths := s.program.paths_addPackage path name
    rw [hadd] at hprogram hid hpaths
    constructor
    case indexed => exact hindexed
    case denotes => exact ⟨i, congrArg some hid, at_iff.2 (hprogram ▸ hat)⟩
    case paths =>
      rw [Store.paths, hprogram]
      exact hpaths
    all_goals
      rw [hprogram]
      first | rfl | exact (List.append_nil _).symm
  | renamePackage target name =>
    obtain ⟨p, hrename, heq⟩ := Option.map_eq_some_iff.1 hstep
    cases heq
    obtain ⟨k, hk, rfl⟩ := Program.renamePackage?_eq_some_iff.1 hrename
    have hpaths := Program.paths_rename hk name
    exact ⟨h.congr rfl hpaths, rfl, hpaths, (List.append_nil _).symm, (List.append_nil _).symm, rfl, rfl, rfl, rfl⟩
  | addFunction f =>
    cases hstep
    exact ⟨h, ⟨_, rfl, List.getElem?_concat_length⟩, rfl, rfl, (List.append_nil _).symm, rfl, rfl, rfl, rfl⟩
  | addCall c =>
    cases hstep
    exact ⟨h, rfl, rfl, (List.append_nil _).symm, rfl, rfl, rfl, rfl, rfl⟩
  | _ =>
    cases hstep
    exact ⟨h, rfl, rfl, (List.append_nil _).symm, (List.append_nil _).symm, rfl, rfl, rfl, rfl⟩

/-- only a package that does not exist stops an operation -/
theorem exists_step?_iff : (∃ r, s.step? op = some r) ↔ ∀ id ∈ op.renamed?, id < s.program.packages.length := by
  cases op with
  | renamePackage target name =>
    simp only [step?, Operation.renamed?, Option.mem_some_iff, forall_eq', Program.renamePackage?]
    by_cases hlt : target < s.program.packages.length <;> simp [hlt]
  | _ => simp [step?, Operation.renamed?]

/-! ## A whole run -/

/-- what was there before is where it was -/
theorem Adds.denotes_mono (h : s.Adds op s' id) {op' : Operation} {id' : Option Nat} (hdenotes : s.Denotes op' id') :
    s'.Denotes op' id' := by
  have hpaths : s.paths <+: s'.paths := by
    rw [h.paths]
    cases op.path? with
    | none => exact List.prefix_rfl
    | some path => exact prefix_addNew _ _
  cases op' with
  | addPackage path name =>
    obtain ⟨i, rfl, hat⟩ := hdenotes
    exact ⟨i, rfl, at_iff.2 (getElem?_mono hpaths (at_iff.1 hat))⟩
  | addFunction f =>
    obtain ⟨i, rfl, hf⟩ := hdenotes
    refine ⟨i, rfl, ?_⟩
    rw [h.functions, List.getElem?_append_left (List.getElem?_eq_some_iff.1 hf).1, hf]
  | _ => exact hdenotes

/-- what a store keeps of a run -/
structure Records (s : Store) (ops : List Operation) (ids : List (Option Nat)) : Prop where
  indexed : s.Indexed
  denotes : List.Forall₂ s.Denotes ops ids
  paths : s.paths = (ops.filterMap Operation.path?).eraseDups
  functions : s.program.functions = ops.filterMap Operation.function?
  calls : s.program.calls = ops.filterMap Operation.call?
  entryPoints : s.program.entryPoints = (ops.filterMap Operation.entryPoint?).eraseDups
  testEntryPoints : s.program.testEntryPoints = (ops.filterMap Operation.testEntryPoint?).eraseDups
  ownModules : s.program.ownModules = (ops.filterMap Operation.ownModule?).eraseDups
  libraryModules : s.program.libraryModules = (ops.filterMap Operation.libraryModule?).eraseDups

theorem Records.empty : Records {} [] [] where
  indexed _ := rfl
  denotes := .nil
  paths := by simp
  functions := rfl
  calls := rfl
  entryPoints := by simp
  testEntryPoints := by simp
  ownModules := by simp
  libraryModules := by simp

/-- one operation more -/
theorem Records.concat (h : s.Records ops ids) (hadds : s.Adds op s' id) : s'.Records (ops ++ [op]) (ids ++ [id]) := by
  constructor
  case indexed => exact hadds.indexed
  case denotes =>
    exact List.rel_append (h.denotes.imp fun _ _ hdenotes => hadds.denotes_mono hdenotes) (.cons hadds.denotes .nil)
  case paths => rw [hadds.paths, h.paths, filterMap_concat, eraseDups_append_toList]
  case functions => rw [hadds.functions, h.functions, filterMap_concat]
  case calls => rw [hadds.calls, h.calls, filterMap_concat]
  case entryPoints => rw [hadds.entryPoints, h.entryPoints, filterMap_concat, eraseDups_append_toList]
  case testEntryPoints => rw [hadds.testEntryPoints, h.testEntryPoints, filterMap_concat, eraseDups_append_toList]
  case ownModules => rw [hadds.ownModules, h.ownModules, filterMap_concat, eraseDups_append_toList]
  case libraryModules => rw [hadds.libraryModules, h.libraryModules, filterMap_concat, eraseDups_append_toList]

theorem run?_concat (ops : List Operation) (op : Operation) :
    run? (ops ++ [op]) = (run? ops).bind fun r => (r.1.step? op).map fun r' => (r'.1, r.2 ++ [r'.2]) := by
  simp [run?, List.foldlM_append]

/-- **Every store that a run reaches keeps the record of that run.** -/
theorem records_of_run? (hrun : run? ops = some (s, ids)) : s.Records ops ids := by
  induction ops using List.reverseRecOn generalizing s ids with
  | nil =>
    cases hrun
    exact .empty
  | append_singleton ops op ih =>
    rw [run?_concat] at hrun
    obtain ⟨⟨before, given⟩, hbefore, hlast⟩ := Option.bind_eq_some_iff.1 hrun
    obtain ⟨⟨after, id⟩, hstep, heq⟩ := Option.map_eq_some_iff.1 hlast
    cases heq
    have hrecords := ih hbefore
    exact hrecords.concat (adds_of_step? hrecords.indexed hstep)

theorem Records.length_packages (h : s.Records ops ids) :
    s.program.packages.length = (ops.filterMap Operation.path?).eraseDups.length := by
  rw [← h.paths, List.length_map]

/-- **A run gets through** exactly if it renames no package that has not been added before. -/
theorem exists_run?_iff : (∃ r, run? ops = some r) ↔ Operation.RenamesKnown ops := by
  induction ops using List.reverseRecOn with
  | nil => exact iff_of_true ⟨_, rfl⟩ (by simp [Operation.RenamesKnown])
  | append_singleton ops op ih =>
    rw [Operation.renamesKnown_concat, ← ih, run?_concat]
    constructor
    · rintro ⟨r, hr⟩
      obtain ⟨⟨s, ids⟩, hrun, hlast⟩ := Option.bind_eq_some_iff.1 hr
      obtain ⟨r', hstep, -⟩ := Option.map_eq_some_iff.1 hlast
      exact ⟨⟨_, hrun⟩, (records_of_run? hrun).length_packages ▸ exists_step?_iff.1 ⟨r', hstep⟩⟩
    · rintro ⟨⟨⟨s, ids⟩, hrun⟩, hop⟩
      obtain ⟨r', hstep⟩ := exists_step?_iff.2 ((records_of_run? hrun).length_packages ▸ hop)
      exact ⟨_, by rw [hrun, Option.bind_some, hstep, Option.map_some]⟩

/-- **What a store keeps.** After any run paths are pairwise different, and a path is found under an id exactly if the
package at that id has it, by the index as well as by a search through the packages. Each id that was handed out denotes
what it was handed out for. All functions and calls are kept in their order, entries and modules once each in the order
in which they first came. -/
theorem run_records (ops : List Operation) (h : Operation.RenamesKnown ops) :
    ∃ s ids, run? ops = some (s, ids) ∧
      s.paths.Nodup ∧
      (∀ path id, s.packageByPath? path = some id ↔ ∃ k, s.program.packages[id]? = some k ∧ k.path = path) ∧
      (∀ path, s.packageByPath? path = Focus.findByPath path s.program.packages) ∧
      List.Forall₂ s.Denotes ops ids ∧
      s.program.functions = ops.filterMap Operation.function? ∧
      s.program.calls = ops.filterMap Operation.call? ∧
      s.program.entryPoints = (ops.filterMap Operation.entryPoint?).eraseDups ∧
      s.program.testEntryPoints = (ops.filterMap Operation.testEntryPoint?).eraseDups ∧
      s.program.ownModules = (ops.filterMap Operation.ownModule?).eraseDups ∧
      s.program.libraryModules = (ops.filterMap Operation.libraryModule?).eraseDups := by
  obtain ⟨⟨s, ids⟩, hrun⟩ := exists_run?_iff.2 h
  have hrecords := records_of_run? hrun
  have hnodup : s.paths.Nodup := hrecords.paths ▸ nodup_eraseDups _
  refine ⟨s, ids, hrun, hnodup, fun path id => ?_, hrecords.indexed, hrecords.denotes, hrecords.functions,
    hrecords.calls, hrecords.entryPoints, hrecords.testEntryPoints, hrecords.ownModules, hrecords.libraryModules⟩
  rw [hrecords.indexed path]
  exact ⟨Focus.At.of_findByPath, Focus.findByPath_eq_some hnodup⟩

/-- packages registered twice and renamed, entries and modules added again -/
def rehearsal : List Operation :=
  [.addPackage "app" "app", .addPackage "app/store" "store", .addFunction { name := "main", package := 0 },
    .renamePackage 0 "main", .addPackage "app" "again", .addFunction { name := "open", package := 1 },
    .addCall { caller := 0, callee := 1 }, .addEntryPoint 0, .addCall { caller := 1, callee := 0, kind := .defer },
    .addCall { caller := 0, callee := 1 }, .addEntryPoint 0, .addTestEntryPoint 1, .addOwnModule "app",
    .addLibraryModule "log", .addOwnModule "app"]

theorem run_records_rehearsal :
    Operation.RenamesKnown rehearsal ∧
      ∃ s ids, run? rehearsal = some (s, ids) ∧
        s.paths.Nodup ∧
        (∀ path id, s.packageByPath? path = some id ↔ ∃ k, s.program.packages[id]? = some k ∧ k.path = path) ∧
        (∀ path, s.packageByPath? path = Focus.findByPath path s.program.packages) ∧
        List.Forall₂ s.Denotes rehearsal ids ∧
        s.program.functions = rehearsal.filterMap Operation.function? ∧
        s.program.calls = rehearsal.filterMap Operation.call? ∧
        s.program.entryPoints = (rehearsal.filterMap Operation.entryPoint?).eraseDups ∧
        s.program.testEntryPoints = (rehearsal.filterMap Operation.testEntryPoint?).eraseDups ∧
        s.program.ownModules = (rehearsal.filterMap Operation.ownModule?).eraseDups ∧
        s.program.libraryModules = (rehearsal.filterMap Operation.libraryModule?).eraseDups :=
  have hknown : Operation.RenamesKnown rehearsal := by decide
  ⟨hknown, run_records rehearsal hknown⟩

example : (run? rehearsal).map (fun r => (r.1.program.packages, r.1.program.entryPoints, r.2.take 5)) =
    some ([⟨"app", "main"⟩, ⟨"app/store", "store"⟩], [0], [some 0, some 1, some 0, none, some 0]) := by
  decide

end Store

end CallAtlas
