/-
Programs: packages, functions and the calls between them.

A program is built by adding to it; ids are positions, in order of registration. `addPackage` gives the known id when a
path is registered twice, entry points and module paths are kept once each in the order in which they first came, and
calls are kept one for each call site. An id may be stored before it exists, so looking one up can fail: `none` is an id
that does not exist.
-/

namespace CallAtlas

/-- position of a package in its program -/
abbrev PackageId := Nat

/-- position of a function in its program -/
abbrev FunctionId := Nat

/-- a package: a unique import path and a short name that need not be unique -/
structure Package where
  path : String
  name : String
  deriving DecidableEq, Repr

/-- a function or a method -/
structure Function where
  name : String
  package : PackageId
  /-- name of the receiver type of a method -/
  receiver : Option String := none
  /-- generated by the compiler -/
  synthetic : Bool := false
  /-- the function that a generated wrapper forwards to -/
  wraps : Option FunctionId := none
  deriving DecidableEq, Repr

/-- how a call site dispatches -/
inductive CallKind where
  | static
  | dynamic
  | go
  | defer
  deriving DecidableEq, Repr

/-- all kinds in their order -/
def CallKind.all : List CallKind := [.static, .dynamic, .go, .defer]

/-- the word for a kind -/
def CallKind.name : CallKind → String
  | .static => "static"
  | .dynamic => "dynamic"
  | .go => "go"
  | .defer => "defer"

/-- the kind that a word names -/
def CallKind.ofName? (s : String) : Option CallKind :=
  CallKind.all.find? fun k => k.name = s

/-- one call site -/
structure Call where
  caller : FunctionId
  callee : FunctionId
  kind : CallKind := .static
  /-- where the call stands in the source -/
  position : Option String := none
  deriving DecidableEq, Repr

/-- a whole program -/
structure Program where
  packages : List Package := []
  functions : List Function := []
  calls : List Call := []
  /-- path prefixes of the program's own modules -/
  ownModules : List String := []
  /-- path prefixes of libraries that do not belong to the toolchain -/
  libraryModules : List String := []
  entryPoints : List FunctionId := []
  testEntryPoints : List FunctionId := []
  deriving DecidableEq, Repr

/-- why a program has no place to start from -/
inductive EntryError where
  | noMain
  | noTests
  deriving DecidableEq, Repr

def EntryError.message : EntryError → String
  | .noMain => "no main packages"
  | .noTests => "no tests"

/-! ## Values kept once -/

/-- a value at the end of a list, unless the list has it -/
def addNew {α : Type} [DecidableEq α] (xs : List α) (a : α) : List α :=
  if a ∈ xs then xs else xs ++ [a]

theorem mem_addNew {α : Type} [DecidableEq α] {xs : List α} {a x : α} : x ∈ addNew xs a ↔ x ∈ xs ∨ x = a := by
  by_cases h : a ∈ xs
  · simp only [addNew, h, if_true]
    exact ⟨.inl, fun | .inl h => h | .inr e => e ▸ h⟩
  · simp [addNew, h]

theorem nodup_addNew {α : Type} [DecidableEq α] {xs : List α} {a : α} (h : xs.Nodup) : (addNew xs a).Nodup := by
  by_cases ha : a ∈ xs
  · simpa [addNew, ha] using h
  · simp only [addNew, ha, if_false]
    exact List.nodup_append.2 ⟨h, List.pairwise_singleton _ _, fun x hx y hy e => ha (by simp_all)⟩

theorem prefix_addNew {α : Type} [DecidableEq α] (xs : List α) (a : α) : xs <+: addNew xs a := by
  unfold addNew
  split
  · exact List.prefix_rfl
  · exact List.prefix_append _ _

theorem getElem?_mono {α : Type} {xs ys : List α} {i : Nat} {a : α} (h : xs <+: ys) (hi : xs[i]? = some a) :
    ys[i]? = some a := by
  obtain ⟨more, rfl⟩ := h
  rw [List.getElem?_append_left (List.getElem?_eq_some_iff.1 hi).1, hi]

theorem mem_foldl_addNew {α : Type} [DecidableEq α] {as xs : List α} {a : α} :
    a ∈ as.foldl addNew xs ↔ a ∈ xs ∨ a ∈ as := by
  induction as generalizing xs with
  | nil => simp
  | cons b as ih => rw [List.foldl_cons, ih, mem_addNew, List.mem_cons, or_assoc]

/-- one value more without repeats -/
theorem eraseDups_concat {α : Type} [DecidableEq α] (xs : List α) (a : α) :
    (xs ++ [a]).eraseDups = addNew xs.eraseDups a := by
  by_cases h : a ∈ xs <;> simp [List.eraseDups_append, List.eraseDups_cons, List.removeAll, addNew, h]

/-- values added one by one to none are the values without repeats -/
theorem foldl_addNew_nil {α : Type} [DecidableEq α] (xs : List α) : xs.foldl addNew [] = xs.eraseDups := by
  rw [← List.reverse_reverse xs]
  induction xs.reverse with
  | nil => simp
  | cons a r ih => rw [List.reverse_cons, List.foldl_append, ih, List.foldl_cons, List.foldl_nil, eraseDups_concat]

theorem nodup_foldl_addNew {α : Type} [DecidableEq α] {as xs : List α} (h : xs.Nodup) : (as.foldl addNew xs).Nodup := by
  induction as generalizing xs with
  | nil => exact h
  | cons a as ih => exact ih (nodup_addNew h)

theorem nodup_eraseDups {α : Type} [DecidableEq α] (xs : List α) : xs.eraseDups.Nodup :=
  foldl_addNew_nil xs ▸ nodup_foldl_addNew List.nodup_nil

namespace Program

/-! ## Looking up -/

/-- the package registered under a path -/
def packageByPath? (p : Program) (path : String) : Option PackageId :=
  p.packages.findIdx? fun k => k.path = path

/-- the package in which a function is defined -/
def packageOf? (p : Program) (f : FunctionId) : Option Package := do
  let f ← p.functions[f]?
  p.packages[f.package]?

/-- a function's name with the path of its package and, for a method, its receiver -/
def qualifiedName? (p : Program) (id : FunctionId) : Option String := do
  let f ← p.functions[id]?
  let package ← p.packages[f.package]?
  match f.receiver with
  | some receiver => some (package.path ++ "." ++ receiver ++ "." ++ f.name)
  | none => some (package.path ++ "." ++ f.name)

/-- where execution starts: the entry points, or the tests -/
def entries (p : Program) (tests : Bool) : Except EntryError (List FunctionId) :=
  if tests then if p.testEntryPoints = [] then .error .noTests else .ok p.testEntryPoints
  else if p.entryPoints = [] then .error .noMain
  else .ok p.entryPoints

/-! ## Building -/

/-- registers a package; a known path keeps its id and its name -/
def addPackage (p : Program) (path name : String) : Program × PackageId :=
  match p.packageByPath? path with
  | some id => (p, id)
  | none => ({ p with packages := p.packages ++ [⟨path, name⟩] }, p.packages.length)

/-- gives a registered package another name -/
def renamePackage? (p : Program) (id : PackageId) (name : String) : Option Program :=
  match p.packages[id]? with
  | some k => some { p with packages := p.packages.set id { k with name } }
  | none => none

def addFunction (p : Program) (f : Function) : Program × FunctionId :=
  ({ p with functions := p.functions ++ [f] }, p.functions.length)

def addCall (p : Program) (c : Call) : Program :=
  { p with calls := p.calls ++ [c] }

def addEntryPoint (p : Program) (f : FunctionId) : Program :=
  { p with entryPoints := addNew p.entryPoints f }

def addTestEntryPoint (p : Program) (f : FunctionId) : Program :=
  { p with testEntryPoints := addNew p.testEntryPoints f }

/-- declares a path prefix as the program's own -/
def addOwnModule (p : Program) (path : String) : Program :=
  { p with ownModules := addNew p.ownModules path }

/-- declares a path prefix as a library's -/
def addLibraryModule (p : Program) (path : String) : Program :=
  { p with libraryModules := addNew p.libraryModules path }

theorem foldl_addEntryPoint (p : Program) (entries : List FunctionId) :
    entries.foldl addEntryPoint p = { p with entryPoints := entries.foldl addNew p.entryPoints } :=
  List.foldl_hom (fun fs => { p with entryPoints := fs }) fun _ _ => rfl

theorem foldl_addTestEntryPoint (p : Program) (tests : List FunctionId) :
    tests.foldl addTestEntryPoint p = { p with testEntryPoints := tests.foldl addNew p.testEntryPoints } :=
  List.foldl_hom (fun fs => { p with testEntryPoints := fs }) fun _ _ => rfl

theorem foldl_addOwnModule (p : Program) (paths : List String) :
    paths.foldl addOwnModule p = { p with ownModules := paths.foldl addNew p.ownModules } :=
  List.foldl_hom (fun ms => { p with ownModules := ms }) fun _ _ => rfl

theorem foldl_addLibraryModule (p : Program) (paths : List String) :
    paths.foldl addLibraryModule p = { p with libraryModules := paths.foldl addNew p.libraryModules } :=
  List.foldl_hom (fun ms => { p with libraryModules := ms }) fun _ _ => rfl

/-! ## Lookups after building -/

/-- only a new path makes a new package -/
theorem packages_addPackage (p : Program) (path name : String) :
    (p.addPackage path name).1.packages =
      if path ∈ p.packages.map Package.path then p.packages else p.packages ++ [⟨path, name⟩] := by
  unfold addPackage
  split
  next id hid =>
    obtain ⟨hlt, hpath, -⟩ := List.findIdx?_eq_some_iff_getElem.1 hid
    rw [if_pos (of_decide_eq_true hpath ▸ List.mem_map_of_mem (List.getElem_mem hlt))]
  next hnone =>
    have hnew : path ∉ p.packages.map Package.path := by simpa [packageByPath?] using hnone
    rw [if_neg hnew]

theorem paths_addPackage (p : Program) (path name : String) :
    (p.addPackage path name).1.packages.map Package.path = addNew (p.packages.map Package.path) path := by
  rw [packages_addPackage, addNew]
  split
  · rfl
  · rw [List.map_append, List.map_singleton]

/-- only the packages change, and a package is at its id -/
theorem addPackage_eq (p : Program) (path name : String) :
    ∃ packages id, p.addPackage path name = ({ p with packages }, id) ∧
      (packages.map Package.path)[id]? = some path := by
  unfold addPackage
  split
  next id hid =>
    obtain ⟨hlt, hpath, -⟩ := List.findIdx?_eq_some_iff_getElem.1 hid
    refine ⟨p.packages, id, rfl, ?_⟩
    rw [List.getElem?_map, List.getElem?_eq_getElem hlt, Option.map_some, of_decide_eq_true hpath]
  next => exact ⟨p.packages ++ [⟨path, name⟩], p.packages.length, rfl, by simp⟩

/-- a package that exists can take another name -/
theorem renamePackage?_eq_some_iff {p q : Program} {id : PackageId} {name : String} :
    p.renamePackage? id name = some q ↔
      ∃ k, p.packages[id]? = some k ∧ { p with packages := p.packages.set id { k with name } } = q := by
  unfold renamePackage?
  split
  next k hk => simp [hk]
  next hnone => simp [hnone]

/-- another name changes no path -/
theorem paths_rename {packages : List Package} {id : PackageId} {k : Package} (h : packages[id]? = some k)
    (name : String) : (packages.set id { k with name }).map Package.path = packages.map Package.path := by
  obtain ⟨hlt, rfl⟩ := List.getElem?_eq_some_iff.1 h
  refine List.ext_getElem (by simp) fun i hi _ => ?_
  simp only [List.getElem_map, List.getElem_set]
  split
  next heq => simp only [heq]
  next => rfl

end Program

end CallAtlas
