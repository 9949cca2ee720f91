/-
When a manifest links, and what it gives.

`faults` lists all that is wrong with a manifest, in the order in which linking looks: repeated ids, then each function
with its package before its wrapper, each call with its caller before its callee, the entry points and the test entry
points. `FailsFirst` relates a computation to such a list, and goes through its stages one by one.
- `failsFirst_link`: linking fails with the first fault, and with nothing else.
- `closed_iff`: there is no fault exactly if the manifest is closed, so that all it refers to is declared.
- `describes_of_link`: the program of a manifest has its packages, functions, calls and entries, with positions in the
  place of ids.
- `link_reads`: the three together.
-/
import Mathlib.Data.List.Induction
import CallAtlas.Proofs.FirstError
import CallAtlas.Proofs.Loading

namespace CallAtlas

namespace Manifest

variable {m : Manifest} {p : Program}

/-! ## Faults -/

/-- ids that stand in the list before, in the order in which they come again -/
def repeats (ids : List String) : List String :=
  ids.zipIdx.filterMap fun (id, i) => if id ∈ ids.take i then some id else none

/-- an id that is used has to be declared -/
def undeclared (m : Manifest) (id : String) : List LinkError :=
  if id ∈ m.ids then [] else [.unknownFunction id]

def functionFaults (m : Manifest) (f : ManifestFunction) : List LinkError :=
  (if f.package ∈ m.packages.map ManifestPackage.path then [] else [.unknownPackage f.id f.package]) ++
    f.wraps.toList.flatMap m.undeclared

def callFaults (m : Manifest) (c : ManifestCall) : List LinkError :=
  m.undeclared c.caller ++ m.undeclared c.callee

/-- all that is wrong with a manifest -/
def faults (m : Manifest) : List LinkError :=
  (repeats m.ids).map .duplicateFunction ++
    (m.functions.flatMap m.functionFaults ++
      (m.calls.flatMap m.callFaults ++
        ((m.entryPoints.getD []).flatMap m.undeclared ++ m.testEntryPoints.flatMap m.undeclared)))

/-- ids are declared once, and all that is referred to is declared -/
structure Closed (m : Manifest) : Prop where
  ids : m.ids.Nodup
  packages : ∀ f ∈ m.functions, ∃ k ∈ m.packages, k.path = f.package
  wraps : ∀ f ∈ m.functions, ∀ id ∈ f.wraps, id ∈ m.ids
  calls : ∀ c ∈ m.calls, c.caller ∈ m.ids ∧ c.callee ∈ m.ids
  entryPoints : ∀ given ∈ m.entryPoints, ∀ id ∈ given, id ∈ m.ids
  testEntryPoints : ∀ id ∈ m.testEntryPoints, id ∈ m.ids

theorem head?_repeats_after (seen before ids : List String) (hseen : ∀ id, id ∈ seen ↔ id ∈ before) :
    firstRepeat? seen ids =
      ((ids.zipIdx before.length).filterMap fun (id, i) => if id ∈ (before ++ ids).take i then some id else none).head? := by
  induction ids generalizing seen before with
  | nil => rfl
  | cons id ids ih =>
    have hrest := ih (id :: seen) (before ++ [id]) fun x => by simp [hseen, or_comm]
    rw [List.length_append, List.length_singleton, List.append_assoc, List.singleton_append] at hrest
    by_cases hid : id ∈ before
    · simp [firstRepeat?, (hseen id).2 hid, List.zipIdx_cons, hid]
    · rw [firstRepeat?, if_neg (fun h => hid ((hseen id).1 h)), hrest]
      simp [List.zipIdx_cons, hid]

theorem firstRepeat?_eq_head? (ids : List String) : firstRepeat? [] ids = (repeats ids).head? :=
  head?_repeats_after [] [] ids fun _ => Iff.rfl

theorem repeats_eq_nil {ids : List String} : repeats ids = [] ↔ ids.Nodup := by
  rw [← List.head?_eq_none_iff, ← firstRepeat?_eq_head?, firstRepeat?_eq_none]
  simp

theorem undeclared_eq_nil {id : String} : m.undeclared id = [] ↔ id ∈ m.ids := by
  unfold undeclared
  split <;> simp [*]

theorem flatMap_undeclared_eq_nil {ids : List String} :
    ids.flatMap m.undeclared = [] ↔ ∀ id ∈ ids, id ∈ m.ids := by
  simp only [List.flatMap_eq_nil_iff, undeclared_eq_nil]

theorem functionFaults_eq_nil {f : ManifestFunction} :
    m.functionFaults f = [] ↔ (∃ k ∈ m.packages, k.path = f.package) ∧ ∀ id ∈ f.wraps, id ∈ m.ids := by
  rw [functionFaults, List.append_eq_nil_iff, flatMap_undeclared_eq_nil]
  refine and_congr ?_ (by simp)
  split
  next hlisted => exact iff_of_true rfl (by simpa using hlisted)
  next hmissing => exact iff_of_false (by simp) (by simpa using hmissing)

theorem callFaults_eq_nil {c : ManifestCall} : m.callFaults c = [] ↔ c.caller ∈ m.ids ∧ c.callee ∈ m.ids := by
  rw [callFaults, List.append_eq_nil_iff, undeclared_eq_nil, undeclared_eq_nil]

/-- **A closed manifest has no faults**, and any other has one. -/
theorem closed_iff : m.Closed ↔ m.faults = [] := by
  have hentries : (∀ id ∈ m.entryPoints.getD [], id ∈ m.ids) ↔ ∀ given ∈ m.entryPoints, ∀ id ∈ given, id ∈ m.ids := by
    cases m.entryPoints <;> simp
  simp only [faults, List.append_eq_nil_iff, List.map_eq_nil_iff, repeats_eq_nil, flatMap_undeclared_eq_nil, hentries]
  simp only [List.flatMap_eq_nil_iff, functionFaults_eq_nil, callFaults_eq_nil]
  constructor
  · rintro ⟨hids, hpackages, hwraps, hcalls, hentries, htests⟩
    exact ⟨hids, fun f hf => ⟨hpackages f hf, hwraps f hf⟩, hcalls, hentries, htests⟩
  · rintro ⟨hids, hfunctions, hcalls, hentries, htests⟩
    exact ⟨hids, fun f hf => (hfunctions f hf).1, fun f hf => (hfunctions f hf).2, hcalls, hentries, htests⟩

/-! ## Packages -/

/-- packages registered one after another keep their order and their first names -/
theorem packages_foldl (listed : List ManifestPackage) :
    let q := listed.foldl (fun p k => (p.addPackage k.path (k.name.getD (lastSegment k.path))).1) ({} : Program)
    q.packages.map Package.path = (listed.map ManifestPackage.path).eraseDups ∧
      ∀ k ∈ q.packages, ∃ l, listed.find? (fun l => l.path = k.path) = some l ∧
        k.name = l.name.getD (lastSegment l.path) := by
  induction listed using List.reverseRecOn with
  | nil => simp
  | append_singleton listed l ih =>
    obtain ⟨hpaths, hnames⟩ := ih
    dsimp only at hpaths hnames ⊢
    rw [List.foldl_concat, Program.packages_addPackage, List.map_append, List.map_singleton, eraseDups_concat, ← hpaths]
    generalize listed.foldl (fun p k => (p.addPackage k.path (k.name.getD (lastSegment k.path))).1) ({} : Program) = q
      at hpaths hnames ⊢
    have hlater : ∀ k ∈ q.packages, ∃ l', (listed ++ [l]).find? (fun l => l.path = k.path) = some l' ∧
        k.name = l'.name.getD (lastSegment l'.path) := by
      intro k hk
      obtain ⟨l', hl', hname⟩ := hnames k hk
      exact ⟨l', by rw [List.find?_append, hl', Option.some_or], hname⟩
    unfold addNew
    split
    next => exact ⟨rfl, hlater⟩
    next hnew =>
      refine ⟨by rw [List.map_append, List.map_singleton], fun k hk => ?_⟩
      rcases List.mem_append.1 hk with hk | hk
      · exact hlater k hk
      · have hfirst : listed.find? (fun l' => l'.path = l.path) = none := by
          rw [hpaths, List.mem_eraseDups] at hnew
          simpa using hnew
        rw [List.mem_singleton.1 hk]
        exact ⟨l, by simp [List.find?_append, hfirst], rfl⟩

theorem mem_paths_withPackages {path : String} :
    path ∈ m.withPackages.packages.map Package.path ↔ path ∈ m.packages.map ManifestPackage.path := by
  rw [show m.withPackages.packages.map Package.path = _ from (packages_foldl m.packages).1, List.mem_eraseDups]

/-! ## Linking and faults -/

theorem failsFirst_lookup (m : Manifest) (id : String) : FailsFirst (m.undeclared id) (m.lookup id) := by
  unfold undeclared lookup
  cases hfind : m.ids.findIdx? fun i => i = id with
  | none =>
    have hid : id ∉ m.ids := fun hid => by simpa using List.findIdx?_eq_none_iff.1 hfind id hid
    simp [hid, FailsFirst]
  | some i =>
    obtain ⟨hlt, hi, -⟩ := List.findIdx?_eq_some_iff_getElem.1 hfind
    have hid : id ∈ m.ids := of_decide_eq_true hi ▸ List.getElem_mem hlt
    simp [hid, FailsFirst]

theorem failsFirst_wrapsOf (m : Manifest) (f : ManifestFunction) :
    FailsFirst (f.wraps.toList.flatMap m.undeclared) (m.wrapsOf f) := by
  unfold wrapsOf
  cases f.wraps with
  | none => exact .ok none
  | some id => simpa using (m.failsFirst_lookup id).map some

theorem failsFirst_linkFunction (m : Manifest) (f : ManifestFunction) :
    FailsFirst (m.functionFaults f) (m.linkFunction m.withPackages f) := by
  rw [linkFunction_eq, functionFaults]
  cases hfind : m.withPackages.packageByPath? f.package with
  | none =>
    have hmissing : f.package ∉ m.packages.map ManifestPackage.path := by
      rw [← mem_paths_withPackages]
      simpa [Program.packageByPath?] using hfind
    simp [hmissing, FailsFirst]
  | some package =>
    obtain ⟨hlt, hpath, -⟩ := List.findIdx?_eq_some_iff_getElem.1 hfind
    have hlisted : f.package ∈ m.packages.map ManifestPackage.path := by
      rw [← mem_paths_withPackages, ← of_decide_eq_true hpath]
      exact List.mem_map_of_mem (List.getElem_mem hlt)
    rw [if_pos hlisted, List.nil_append]
    exact (m.failsFirst_wrapsOf f).map _

theorem failsFirst_linkCall (m : Manifest) (c : ManifestCall) : FailsFirst (m.callFaults c) (m.linkCall c) := by
  unfold linkCall callFaults
  exact (m.failsFirst_lookup c.caller).bind fun caller _ => (m.failsFirst_lookup c.callee).bind_pure _

theorem failsFirst_entriesIn (m : Manifest) (p : Program) :
    FailsFirst ((m.entryPoints.getD []).flatMap m.undeclared) (m.entriesIn p) := by
  unfold entriesIn
  cases m.entryPoints with
  | none => exact .ok _
  | some given => exact .mapM fun id _ => m.failsFirst_lookup id

/-- **Linking fails with the first fault**, and succeeds if there is none. -/
theorem failsFirst_link (m : Manifest) : FailsFirst m.faults m.link := by
  rw [link_eq, firstRepeat?_eq_head?, faults]
  cases repeats m.ids with
  | cons id ids => rfl
  | nil =>
    rw [List.map_nil, List.nil_append]
    refine FailsFirst.bind (.mapM fun f _ => m.failsFirst_linkFunction f) fun functions _ => ?_
    refine FailsFirst.bind (.mapM fun c _ => m.failsFirst_linkCall c) fun calls _ => ?_
    refine FailsFirst.bind (m.failsFirst_entriesIn _) fun entries _ => ?_
    exact FailsFirst.bind_pure (.mapM fun id _ => m.failsFirst_lookup id) _

/-! ## What linking gives -/

/-- a function of a program is the one that a manifest declares -/
structure DeclaresFunction (m : Manifest) (packages : List Package) (f : ManifestFunction) (g : Function) : Prop where
  name : g.name = f.name
  receiver : g.receiver = f.receiver
  synthetic : g.synthetic = f.synthetic
  package : ∃ k, packages[g.package]? = some k ∧ k.path = f.package
  /-- the target is the function with the id that is written -/
  wraps : g.wraps.map (fun target => m.ids[target]?) = f.wraps.map some

/-- a call of a program is the one that a manifest lists -/
structure ListsCall (m : Manifest) (c : ManifestCall) (d : Call) : Prop where
  caller : m.ids[d.caller]? = some c.caller
  callee : m.ids[d.callee]? = some c.callee
  kind : d.kind = c.kind
  position : d.position = c.position

/-- functions are those with certain ids, in this order -/
def Named (m : Manifest) (ids : List String) (fs : List FunctionId) : Prop :=
  List.Forall₂ (fun id f => m.ids[f]? = some id) ids fs

/-- a program is what a manifest says -/
structure Describes (m : Manifest) (p : Program) : Prop where
  /-- each listed path once, in the order in which they first come -/
  packages : p.packages.map Package.path = (m.packages.map ManifestPackage.path).eraseDups
  /-- under the name of the first listing, or the last segment of the path if no name is given there -/
  packageNames : ∀ k ∈ p.packages, ∃ listed, m.packages.find? (fun l => l.path = k.path) = some listed ∧
    match listed.name with
    | some name => k.name = name
    | none => IsLastSegment k.path k.name
  functions : List.Forall₂ (m.DeclaresFunction p.packages) m.functions p.functions
  calls : List.Forall₂ m.ListsCall m.calls p.calls
  entryPoints : ∃ entries, p.entryPoints = entries.eraseDups ∧
    match m.entryPoints with
    | some given => m.Named given entries
    | none => entries = mains p
  testEntryPoints : ∃ tests, p.testEntryPoints = tests.eraseDups ∧ m.Named m.testEntryPoints tests

theorem getElem?_ids_of_lookup {id : String} {f : FunctionId} (h : m.lookup id = .ok f) : m.ids[f]? = some id := by
  unfold lookup at h
  split at h
  next i hi =>
    cases h
    obtain ⟨hlt, hid, -⟩ := List.findIdx?_eq_some_iff_getElem.1 hi
    rw [List.getElem?_eq_getElem hlt, of_decide_eq_true hid]
  next => cases h

theorem named_of_mapM_lookup {ids : List String} {fs : List FunctionId} (h : ids.mapM m.lookup = .ok fs) :
    m.Named ids fs :=
  (mapM_eq_ok_iff.1 h).imp fun _ _ => getElem?_ids_of_lookup

theorem map_getElem?_of_wrapsOf {f : ManifestFunction} {wraps : Option FunctionId} (h : m.wrapsOf f = .ok wraps) :
    wraps.map (fun target => m.ids[target]?) = f.wraps.map some := by
  unfold wrapsOf at h
  cases hf : f.wraps with
  | none =>
    rw [hf] at h
    cases h
    rfl
  | some id =>
    rw [hf] at h
    dsimp only at h
    cases hlookup : m.lookup id with
    | error e =>
      rw [hlookup] at h
      cases h
    | ok target =>
      rw [hlookup] at h
      cases h
      rw [Option.map_some, Option.map_some, getElem?_ids_of_lookup hlookup]

theorem declaresFunction_of_linkFunction {f : ManifestFunction} {g : Function}
    (h : m.linkFunction m.withPackages f = .ok g) : m.DeclaresFunction m.withPackages.packages f g := by
  rw [linkFunction_eq] at h
  split at h
  next package hpackage =>
    obtain ⟨hlt, hpath, -⟩ := List.findIdx?_eq_some_iff_getElem.1 hpackage
    cases hwraps : m.wrapsOf f with
    | error e =>
      rw [hwraps] at h
      cases h
    | ok wraps =>
      rw [hwraps] at h
      cases h
      exact ⟨rfl, rfl, rfl, ⟨_, List.getElem?_eq_getElem hlt, of_decide_eq_true hpath⟩, map_getElem?_of_wrapsOf hwraps⟩
  next => cases h

theorem listsCall_of_linkCall {c : ManifestCall} {d : Call} (h : m.linkCall c = .ok d) : m.ListsCall c d := by
  obtain ⟨caller, hcaller, h⟩ := exists_of_bind_ok h
  obtain ⟨callee, hcallee, h⟩ := exists_of_bind_ok h
  cases h
  exact ⟨getElem?_ids_of_lookup hcaller, getElem?_ids_of_lookup hcallee, rfl, rfl⟩

/-- the last stage adds entries and modules only -/
theorem finish_eq (m : Manifest) (p : Program) (entries tests : List FunctionId) :
    ∃ ownModules, m.finish p entries tests =
      { p with
        entryPoints := entries.foldl addNew p.entryPoints
        testEntryPoints := tests.foldl addNew p.testEntryPoints
        ownModules } := by
  unfold finish
  rw [Program.foldl_addOwnModule, Program.foldl_addTestEntryPoint, Program.foldl_addEntryPoint]
  exact ⟨_, rfl⟩

/-- **The program of a manifest is what the manifest says.** -/
theorem describes_of_link (h : m.link = .ok p) : m.Describes p := by
  obtain ⟨functions, calls, entries, tests, hfunctions, hcalls, hentries, htests, rfl⟩ := exists_stages_of_link h
  obtain ⟨hpaths, hnames⟩ := packages_foldl m.packages
  obtain ⟨ownModules, hfinish⟩ := m.finish_eq (m.declared functions calls) entries tests
  obtain ⟨hin, hnone⟩ := m.inRange_withPackages
  -- before its functions are there a program can have no entries
  have hnoEntries : m.withPackages.entryPoints = [] := by
    simpa [List.eq_nil_iff_forall_not_mem, hnone] using hin.entryPoints
  have hnoTests : m.withPackages.testEntryPoints = [] := by
    simpa [List.eq_nil_iff_forall_not_mem, hnone] using hin.testEntryPoints
  rw [hfinish]
  constructor
  case packages => exact hpaths
  case packageNames =>
    intro k hk
    obtain ⟨listed, hlisted, hname⟩ := hnames k hk
    refine ⟨listed, hlisted, ?_⟩
    cases hgiven : listed.name with
    | some name => rw [hname, hgiven, Option.getD_some]
    | none =>
      have hpath : listed.path = k.path := by simpa using List.find?_some hlisted
      rw [hgiven, Option.getD_none, hpath] at hname
      exact isLastSegment_iff.2 hname.symm
  case functions => exact (mapM_eq_ok_iff.1 hfunctions).imp fun _ _ => declaresFunction_of_linkFunction
  case calls => exact (mapM_eq_ok_iff.1 hcalls).imp fun _ _ => listsCall_of_linkCall
  case entryPoints =>
    refine ⟨entries, by rw [← foldl_addNew_nil, ← hnoEntries]; rfl, ?_⟩
    unfold entriesIn at hentries
    cases hgiven : m.entryPoints with
    | some given =>
      rw [hgiven] at hentries
      exact named_of_mapM_lookup hentries
    | none =>
      rw [hgiven] at hentries
      cases hentries
      rfl
  case testEntryPoints => exact ⟨tests, by rw [← foldl_addNew_nil, ← hnoTests]; rfl, named_of_mapM_lookup htests⟩

/-- **A manifest links if it is closed.** Linking succeeds exactly if ids are declared once and all that is referred to
is declared, and then the program is what the manifest says. Otherwise it fails with the first fault: a repeated id,
then the functions, each with its package before its wrapper, then the calls, each with its caller before its callee,
then the entry points, then the test entry points. -/
theorem link_reads (m : Manifest) :
    ((∃ p, m.link = .ok p) ↔ m.Closed) ∧ (∀ p, m.link = .ok p → m.Describes p) ∧
      ∀ e, m.link = .error e ↔ m.faults.head? = some e :=
  ⟨m.failsFirst_link.exists_ok_iff.trans closed_iff.symm, fun _ => describes_of_link,
    fun _ => m.failsFirst_link.error_iff⟩

end Manifest

end CallAtlas
