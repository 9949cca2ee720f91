/-
Which package a focus text stands for.

`At packages id path` says that the package at a position has a path; with pairwise different paths there is at most one
such position. `findByPath` and `named` are read in these terms, and `resolve` in terms of both.
- `remedy_iff`: if a name is ambiguous, one of the reported paths resolves to its package exactly if it is not empty and
  either has a slash or is the name of no other package.
- `remedy_misses`: so the advice to use the path in place of the name can lead to another package.
-/
import Mathlib.Tactic.SplitIfs
import CallAtlas.Focus

namespace CallAtlas.Focus

/-! ## Positions of packages -/

/-- the package at a position has a path -/
def At (packages : List Package) (id : PackageId) (path : String) : Prop :=
  ∃ k, packages[id]? = some k ∧ k.path = path

variable {packages : List Package} {id id' : PackageId} {path name focus : String}

theorem At.unique (hpaths : (packages.map Package.path).Nodup) (h : At packages id path) (h' : At packages id' path) :
    id = id' := by
  obtain ⟨k, hk, rfl⟩ := h
  obtain ⟨k', hk', hpath⟩ := h'
  have hlt : id < (packages.map Package.path).length := by
    rw [List.length_map]
    exact (List.getElem?_eq_some_iff.1 hk).1
  refine (List.getElem?_inj hlt hpaths).1 ?_
  rw [List.getElem?_map, List.getElem?_map, hk, hk', Option.map_some, Option.map_some, hpath]

/-- what is found by a path has it -/
theorem At.of_findByPath (h : findByPath path packages = some id) : At packages id path := by
  obtain ⟨hlt, hpath, -⟩ := List.findIdx?_eq_some_iff_getElem.1 h
  exact ⟨_, List.getElem?_eq_getElem hlt, of_decide_eq_true hpath⟩

theorem findByPath_eq_some (hpaths : (packages.map Package.path).Nodup) (h : At packages id path) :
    findByPath path packages = some id := by
  obtain ⟨k, hk, hpath⟩ := h
  cases hfind : findByPath path packages with
  | none =>
    have hall := List.findIdx?_eq_none_iff.1 hfind k (List.mem_of_getElem? hk)
    exact absurd hpath (of_decide_eq_false hall)
  | some id' =>
    rw [(At.of_findByPath hfind).unique hpaths ⟨k, hk, hpath⟩]

theorem byPath_eq (hpaths : (packages.map Package.path).Nodup) (h : At packages id path) :
    byPath path packages = .resolved id := by
  rw [byPath, findByPath_eq_some hpaths h]

/-! ## Packages of one name -/

theorem isOrder_named : Ordered.IsOrder (Ordered.pairBefore Ordered.textBefore Ordered.natBefore) :=
  Ordered.isOrder_pair Ordered.isOrder_text Ordered.isOrder_nat

theorem mem_named : (path, id) ∈ named name packages ↔ ∃ k, packages[id]? = some k ∧ k.name = name ∧ k.path = path := by
  simp only [named, Ordered.mem_ofList isOrder_named, List.mem_filterMap, Prod.exists, List.mem_zipIdx_iff_getElem?]
  constructor
  · rintro ⟨k, i, hk, hi⟩
    split_ifs at hi with hname
    cases hi
    exact ⟨k, hk, hname, rfl⟩
  · rintro ⟨k, hk, hname, rfl⟩
    exact ⟨k, id, hk, if_pos hname⟩

theorem At.of_mem_named (h : (path, id) ∈ named name packages) : At packages id path := by
  obtain ⟨k, hk, -, hpath⟩ := mem_named.1 h
  exact ⟨k, hk, hpath⟩

theorem nodup_named (name : String) (packages : List Package) : (named name packages).Nodup :=
  (Ordered.sorted_ofList isOrder_named _).nodup isOrder_named

/-- the path of a package has no blanks -/
def Unbroken (k : Package) : Prop :=
  ∀ x ∈ k.path.toList, Text.isBlank x = false

instance (k : Package) : Decidable (Unbroken k) :=
  List.decidableBAll _ k.path.toList

theorem Unbroken.trim_eq {k : Package} (h : Unbroken k) : Text.trim k.path = k.path :=
  Text.trim_eq_self (fun x hx => h x (List.mem_of_mem_head? hx)) (fun x hx => h x (List.mem_of_getLast? hx))

/-! ## Resolution -/

/-- only a name can be ambiguous, and each path reported is that of a package -/
theorem exists_at_of_ambiguous {candidates : List String} (h : resolve focus packages = .ambiguous candidates) :
    ∀ c ∈ candidates, ∃ id, At packages id c := by
  have hmany : candidates = (named (Text.trim focus) packages).map Prod.fst := by
    simp only [resolve, byPath] at h
    split_ifs at h
    · split at h <;> cases h
    · split at h
      · split at h <;> cases h
      · cases h
      · cases h
        rfl
  intro c hc
  rw [hmany] at hc
  obtain ⟨⟨path, id⟩, hmem, rfl⟩ := List.mem_map.1 hc
  exact ⟨id, At.of_mem_named hmem⟩

theorem eq_resolved_of_result {r : Resolution} (h : r.result focus = .ok (some id)) : r = .resolved id := by
  cases r with
  | resolved id' =>
    cases h
    rfl
  | _ => cases h

/-- a focus resolves to a package that exists -/
theorem exists_at_of_resolved (h : resolve focus packages = .resolved id) : ∃ path, At packages id path := by
  have hpath : ∀ text, byPath text packages = .resolved id → ∃ path, At packages id path := by
    intro text h
    unfold byPath at h
    split at h
    next id' hfind =>
      cases h
      exact ⟨_, At.of_findByPath hfind⟩
    next => cases h
  simp only [resolve] at h
  split_ifs at h
  · exact hpath _ h
  · split at h
    · exact hpath _ h
    next path id' hone =>
      cases h
      exact ⟨path, At.of_mem_named (hone ▸ List.mem_singleton.2 rfl)⟩
    · cases h

theorem resolve_slash (htrim : Text.trim path = path) (hslash : '/' ∈ path.toList) :
    resolve path packages = byPath path packages := by
  have hne : path ≠ "" := by
    rintro rfl
    cases hslash
  simp [resolve, htrim, hne, hslash]

theorem resolve_bare (htrim : Text.trim path = path) (hne : path ≠ "") (hslash : '/' ∉ path.toList) :
    resolve path packages =
      match named path packages with
      | [] => byPath path packages
      | [(_, id)] => .resolved id
      | many => .ambiguous (many.map Prod.fst) := by
  have hbare : ¬ path.toList.contains '/' = true := fun h => hslash (List.contains_iff_mem.1 h)
  unfold resolve
  dsimp only
  rw [htrim]
  exact (if_neg hne).trans (if_neg hbare)

/-- **A path without a slash is a name first.** It resolves to its package exactly if no other package has it as its
name. -/
theorem resolve_bare_iff (hpaths : (packages.map Package.path).Nodup) (htrim : Text.trim path = path) (hne : path ≠ "")
    (hslash : '/' ∉ path.toList) (h : At packages id path) :
    resolve path packages = .resolved id ↔ ∀ k ∈ packages, k.name = path → k.path = path := by
  -- a package with the name is the one at `id` as soon as its path is the text
  have hown : (∀ k ∈ packages, k.name = path → k.path = path) → ∀ x ∈ named path packages, x = (path, id) := by
    rintro hall ⟨path', id'⟩ hx
    obtain ⟨k, hk, hname, rfl⟩ := mem_named.1 hx
    have hpath := hall k (List.mem_of_getElem? hk) hname
    rw [hpath, At.unique hpaths ⟨k, hk, hpath⟩ h]
  rw [resolve_bare htrim hne hslash]
  split
  next hnone =>
    rw [byPath_eq hpaths h, eq_self_iff_true, true_iff]
    intro k hk hname
    obtain ⟨i, hi⟩ := List.mem_iff_getElem?.1 hk
    have hmem : (k.path, i) ∈ named path packages := mem_named.2 ⟨k, hi, hname, rfl⟩
    rw [hnone] at hmem
    cases hmem
  next path' id' hone =>
    constructor
    · intro heq k hk hname
      cases heq
      obtain ⟨i, hi⟩ := List.mem_iff_getElem?.1 hk
      have hmem : (k.path, i) ∈ named path packages := mem_named.2 ⟨k, hi, hname, rfl⟩
      rw [hone, List.mem_singleton] at hmem
      cases hmem
      obtain ⟨k', hk', hpath'⟩ := h
      rw [hi] at hk'
      cases hk'
      exact hpath'
    · intro hall
      have heq := hown hall (path', id') (hone ▸ List.mem_singleton.2 rfl)
      rw [(Prod.mk.inj heq).2]
  next hnone hone =>
    simp only [reduceCtorEq, false_iff]
    intro hall
    -- two different entries, both the one at `id`
    match hmany : named path packages with
    | [] => exact hnone hmany
    | [(_, id')] => exact hone _ id' hmany
    | x :: y :: r =>
      have hnodup := nodup_named path packages
      rw [hmany] at hnodup
      have hx := hown hall x (hmany ▸ by simp)
      have hy := hown hall y (hmany ▸ by simp)
      exact (List.nodup_cons.1 hnodup).1 (hx ▸ hy ▸ List.mem_cons_self)

/-- **When the path helps.** The paths of packages are pairwise different and without blanks, and a focus is ambiguous.
Then each path reported is that of exactly one package, and it resolves to this package exactly if it is not empty and
either has a slash or is the name of no other package. -/
theorem remedy_iff (hpaths : (packages.map Package.path).Nodup) (hblank : ∀ k ∈ packages, Unbroken k)
    {candidates : List String} (h : resolve focus packages = .ambiguous candidates) :
    ∀ c ∈ candidates, ∃ id, (∀ i, packages[i]?.map Package.path = some c ↔ i = id) ∧
      (resolve c packages = .resolved id ↔
        c ≠ "" ∧ ('/' ∈ c.toList ∨ ∀ k ∈ packages, k.name = c → k.path = c)) := by
  intro c hc
  obtain ⟨id, hat⟩ := exists_at_of_ambiguous h c hc
  have htrim : Text.trim c = c := by
    obtain ⟨k, hk, rfl⟩ := hat
    exact (hblank k (List.mem_of_getElem? hk)).trim_eq
  refine ⟨id, fun i => ⟨fun hi => ?_, ?_⟩, ?_⟩
  · obtain ⟨k, hk, hpath⟩ := Option.map_eq_some_iff.1 hi
    exact At.unique hpaths ⟨k, hk, hpath⟩ hat
  · rintro rfl
    obtain ⟨k, hk, rfl⟩ := hat
    rw [hk, Option.map_some]
  · by_cases hne : c = ""
    · subst hne
      simp [resolve, Text.trim, Text.trimChars]
    · by_cases hslash : '/' ∈ c.toList
      · simp [resolve_slash htrim hslash, byPath_eq hpaths hat, hne, hslash]
      · simp [resolve_bare_iff hpaths htrim hne hslash hat, hne, hslash]

/-- two packages of one name, each with a slash in its path -/
def workers : List Package := [⟨"lib/worker", "worker"⟩, ⟨"app", "main"⟩, ⟨"app/worker", "worker"⟩]

/-- the name is ambiguous and the path is not -/
theorem remedy_iff_workers :
    ((workers.map Package.path).Nodup ∧ ∀ k ∈ workers, Unbroken k) ∧
      resolve "worker" workers = .ambiguous ["app/worker", "lib/worker"] ∧
        resolve "app/worker" workers = .resolved 2 := by
  have hpaths : (workers.map Package.path).Nodup := by decide
  have hblank : ∀ k ∈ workers, Unbroken k := by decide
  have hmany : resolve "worker" workers = .ambiguous ["app/worker", "lib/worker"] := by decide +kernel
  obtain ⟨id, hid, hremedy⟩ := remedy_iff hpaths hblank hmany "app/worker" (by decide)
  have h2 : 2 = id := (hid 2).1 (by decide)
  exact ⟨⟨hpaths, hblank⟩, hmany, h2 ▸ hremedy.2 ⟨by decide, Or.inl (by decide)⟩⟩

/-- the roots of two crates, which share their name, and a package that is named as the path of one of them -/
def roots : List Package := [⟨"worker", "main"⟩, ⟨"tool", "main"⟩, ⟨"tool/worker", "worker"⟩]

/-- **The path can lead elsewhere.** The name of the two roots is ambiguous, and the path reported for the first is the
name of the third package, to which it resolves. -/
theorem remedy_misses :
    (roots.map Package.path).Nodup ∧ (∀ k ∈ roots, Unbroken k) ∧
      resolve "main" roots = .ambiguous ["tool", "worker"] ∧ roots[0]?.map Package.path = some "worker" ∧
        resolve "worker" roots = .resolved 2 := by
  decide +kernel

end CallAtlas.Focus
