/-
What the answer for a focus text says, and that the order of the packages does not matter.

An answer names a package by its position, and positions change with the order in which packages were registered. What
the answer says is a path, or a list of paths, and this is told by the packages alone: `bearers` are those with a name.
- `candidates_perm` and `sorted_candidates`: the entries of `named` are the bearers of the name, by their paths.
- `sameAnswer_of_perm`: packages in another order are answered for alike.
- `never_guesses`: which answer is given when, and that the order does not matter.
-/
import CallAtlas.Proofs.Collapse
import CallAtlas.Proofs.FocusResolution

namespace CallAtlas.Focus

variable {packages packages' : List Package} {id : PackageId} {path name text focus : String} {r : Resolution}

/-- the packages with a name -/
def bearers (name : String) (packages : List Package) : List Package :=
  packages.filter fun k => k.name = name

/-- the answer for a path: its package, or none if there is no such package -/
def ByPath (path : String) (packages : List Package) (r : Resolution) : Prop :=
  (∃ id, At packages id path ∧ r = .resolved id) ∨ (∀ k ∈ packages, k.path ≠ path) ∧ r = .notFound

/-- two answers, each about its own packages, that say the same: the same kind, with the same paths -/
inductive SameAnswer (packages packages' : List Package) : Resolution → Resolution → Prop
  | unfocused : SameAnswer packages packages' .unfocused .unfocused
  | resolved {id id' : PackageId} {path : String} :
    At packages id path → At packages' id' path → SameAnswer packages packages' (.resolved id) (.resolved id')
  | ambiguous (paths : List String) : SameAnswer packages packages' (.ambiguous paths) (.ambiguous paths)
  | notFound : SameAnswer packages packages' .notFound .notFound

/-- the answer for a name: all its bearers if there are several, the only one if there is one, and else that for a path -/
structure ByName (name : String) (packages : List Package) (r : Resolution) : Prop where
  ambiguous_iff : (∃ paths, r = .ambiguous paths) ↔ 2 ≤ (bearers name packages).length
  candidates : ∀ paths, r = .ambiguous paths →
    Ordered.Sorted Ordered.textBefore paths ∧ paths.Perm ((bearers name packages).map Package.path)
  only : ∀ k, bearers name packages = [k] → ∃ id, packages[id]? = some k ∧ r = .resolved id
  unnamed : bearers name packages = [] → ByPath name packages r

/-! ## Answers by path -/

theorem At.path_mem (h : At packages id path) : path ∈ packages.map Package.path := by
  obtain ⟨k, hk, rfl⟩ := h
  exact List.mem_map_of_mem (List.mem_of_getElem? hk)

theorem byPath_cases (path : String) (packages : List Package) : ByPath path packages (byPath path packages) := by
  unfold byPath
  split
  next id hfind => exact Or.inl ⟨id, At.of_findByPath hfind, rfl⟩
  next hnone =>
    refine Or.inr ⟨fun k hk => ?_, rfl⟩
    exact of_decide_eq_false (List.findIdx?_eq_none_iff.1 hnone k hk)

theorem ByPath.sameAnswer {r' : Resolution} (h : ByPath path packages r) (h' : ByPath path packages' r')
    (hperm : packages.Perm packages') : SameAnswer packages packages' r r' := by
  have hmem : path ∈ packages.map Package.path ↔ path ∈ packages'.map Package.path :=
    (hperm.map Package.path).mem_iff
  have hnone : ∀ {packages : List Package}, (∀ k ∈ packages, k.path ≠ path) → path ∉ packages.map Package.path := by
    intro packages hall hpath
    obtain ⟨k, hk, heq⟩ := List.mem_map.1 hpath
    exact hall k hk heq
  rcases h with ⟨id, hat, rfl⟩ | ⟨hall, rfl⟩ <;> rcases h' with ⟨id', hat', rfl⟩ | ⟨hall', rfl⟩
  · exact SameAnswer.resolved hat hat'
  · exact absurd (hmem.1 hat.path_mem) (hnone hall')
  · exact absurd (hmem.2 hat'.path_mem) (hnone hall)
  · exact SameAnswer.notFound

/-! ## Bearers of a name -/

theorem map_fst_named_entries (name : String) (packages : List Package) (n : Nat) :
    ((packages.zipIdx n).filterMap fun (k, id) => if k.name = name then some (k.path, id) else none).map Prod.fst =
      (bearers name packages).map Package.path := by
  induction packages generalizing n with
  | nil => rfl
  | cons k packages ih =>
    unfold bearers at ih ⊢
    by_cases hname : k.name = name <;> simp [List.zipIdx_cons, hname, ih]

theorem nodup_paths_bearers (hpaths : (packages.map Package.path).Nodup) (name : String) :
    ((bearers name packages).map Package.path).Nodup :=
  (List.filter_sublist.map Package.path).nodup hpaths

/-- the candidates for a name are the paths of its bearers, each once -/
theorem candidates_perm (hpaths : (packages.map Package.path).Nodup) (name : String) :
    ((named name packages).map Prod.fst).Perm ((bearers name packages).map Package.path) := by
  have hentries := map_fst_named_entries name packages 0
  have hnodup := List.Nodup.of_map Prod.fst (hentries ▸ nodup_paths_bearers hpaths name)
  have hperm : (named name packages).Perm _ :=
    (List.perm_ext_iff_of_nodup (nodup_named name packages) hnodup).2 fun _ => Ordered.mem_ofList isOrder_named
  exact hentries ▸ hperm.map Prod.fst

/-- and they ascend -/
theorem sorted_candidates (hpaths : (packages.map Package.path).Nodup) (name : String) :
    Ordered.Sorted Ordered.textBefore ((named name packages).map Prod.fst) := by
  have hnodup : ((named name packages).map Prod.fst).Nodup :=
    (candidates_perm hpaths name).nodup_iff.2 (nodup_paths_bearers hpaths name)
  have hsorted : Ordered.Sorted _ (named name packages) := Ordered.sorted_ofList isOrder_named _
  refine List.pairwise_map.2 ((hsorted.and (List.pairwise_map.1 hnodup)).imp ?_)
  -- paths differ, so the order of entries is that of their paths
  rintro a b ⟨hbefore, hne⟩
  by_contra hnot
  have hab : Ordered.textBefore a.1 b.1 = false := Bool.eq_false_iff.2 hnot
  have hba : Ordered.textBefore b.1 a.1 = false := by
    simp only [Ordered.pairBefore, hab, Bool.false_or, Bool.and_eq_true, Bool.not_eq_true'] at hbefore
    exact hbefore.1
  exact hne (Ordered.isOrder_text.tri _ _ hab hba)

theorem length_named (hpaths : (packages.map Package.path).Nodup) (name : String) :
    (named name packages).length = (bearers name packages).length := by
  simpa using (candidates_perm hpaths name).length_eq

/-- the candidates depend on the packages only, not on their order -/
theorem candidates_eq_of_perm (hpaths : (packages.map Package.path).Nodup) (hperm : packages.Perm packages')
    (name : String) : (named name packages).map Prod.fst = (named name packages').map Prod.fst := by
  have hpaths' : (packages'.map Package.path).Nodup := (hperm.map Package.path).nodup_iff.1 hpaths
  have hbearers : ((bearers name packages).map Package.path).Perm ((bearers name packages').map Package.path) :=
    (hperm.filter _).map Package.path
  apply Ordered.Sorted.eq_of_mem_iff Ordered.isOrder_text (sorted_candidates hpaths name)
    (sorted_candidates hpaths' name)
  intro c
  rw [(candidates_perm hpaths name).mem_iff, (candidates_perm hpaths' name).mem_iff, hbearers.mem_iff]

/-- the only entry of a name is that of its only bearer -/
theorem at_of_bearers_eq_singleton {k : Package} (hk : bearers name packages = [k])
    (h : (path, id) ∈ named name packages) : packages[id]? = some k := by
  obtain ⟨k', hk', hname, -⟩ := mem_named.1 h
  have hmem : k' ∈ bearers name packages := List.mem_filter.2 ⟨List.mem_of_getElem? hk', decide_eq_true hname⟩
  have heq : k' = k := List.mem_singleton.1 (hk ▸ hmem)
  rw [hk', heq]

/-! ## Answers -/

/-- blanks around a focus do not count -/
theorem resolve_trim (focus : String) (packages : List Package) :
    resolve (Text.trim focus) packages = resolve focus packages := by
  simp only [resolve, Text.trim_trim]

/-- **The order of the packages does not matter.** -/
theorem sameAnswer_of_perm (hpaths : (packages.map Package.path).Nodup) (hperm : packages.Perm packages')
    (focus : String) : SameAnswer packages packages' (resolve focus packages) (resolve focus packages') := by
  have hpath : SameAnswer packages packages' (byPath (Text.trim focus) packages) (byPath (Text.trim focus) packages') :=
    (byPath_cases _ packages).sameAnswer (byPath_cases _ packages') hperm
  have hcandidates := candidates_eq_of_perm hpaths hperm (Text.trim focus)
  unfold resolve
  dsimp only
  split
  · exact SameAnswer.unfocused
  · split
    · exact hpath
    · -- the two lists of entries differ in their positions only, so they are of one shape
      rcases hnamed : named (Text.trim focus) packages with _ | ⟨⟨path, id⟩, _ | ⟨entry, rest⟩⟩ <;>
        rcases hnamed' : named (Text.trim focus) packages' with _ | ⟨⟨path', id'⟩, _ | ⟨entry', rest'⟩⟩ <;>
          rw [hnamed, hnamed'] at hcandidates
      case nil.nil => exact hpath
      case cons.nil.cons.nil =>
        cases List.singleton_inj.1 hcandidates
        exact SameAnswer.resolved (At.of_mem_named (hnamed ▸ List.mem_singleton.2 rfl))
          (At.of_mem_named (hnamed' ▸ List.mem_singleton.2 rfl))
      case cons.cons.cons.cons =>
        dsimp only
        rw [hcandidates]
        exact SameAnswer.ambiguous _
      all_goals simp at hcandidates

theorem byName_resolve (hpaths : (packages.map Package.path).Nodup) (htrim : Text.trim name = name) (hne : name ≠ "")
    (hslash : '/' ∉ name.toList) : ByName name packages (resolve name packages) := by
  have hresolve : resolve name packages = _ := resolve_bare htrim hne hslash
  have hlength := length_named hpaths name
  rcases hnamed : named name packages with _ | ⟨⟨path, id⟩, _ | ⟨entry, rest⟩⟩ <;> rw [hnamed] at hresolve hlength
  case nil =>
    have hnone : bearers name packages = [] := List.eq_nil_of_length_eq_zero hlength.symm
    have hpath : ByPath name packages (resolve name packages) := hresolve ▸ byPath_cases name packages
    have hunambiguous : ∀ paths, resolve name packages ≠ .ambiguous paths := by
      rcases hpath with ⟨id, -, heq⟩ | ⟨-, heq⟩ <;> simp [heq]
    refine ⟨?_, fun paths h => absurd h (hunambiguous paths), fun k hk => ?_, fun _ => hpath⟩
    · simp [hunambiguous, hnone]
    · simp [hnone] at hk
  case cons.nil =>
    refine ⟨?_, fun paths h => ?_, fun k hk => ⟨id, ?_, hresolve⟩, fun hnone => ?_⟩
    · simp [hresolve, ← hlength]
    · simp [hresolve] at h
    · exact at_of_bearers_eq_singleton hk (hnamed ▸ List.mem_singleton.2 rfl)
    · simp [hnone] at hlength
  case cons.cons =>
    refine ⟨?_, fun paths h => ?_, fun k hk => ?_, fun hnone => ?_⟩
    · simp [hresolve, ← hlength]
    · have hpaths' : paths = (named name packages).map Prod.fst := by
        rw [hnamed]
        exact (Resolution.ambiguous.inj (hresolve.symm.trans h)).symm
      rw [hpaths']
      exact ⟨sorted_candidates hpaths name, candidates_perm hpaths name⟩
    · simp [hk] at hlength
    · simp [hnone] at hlength

/-- **Resolution never guesses.** The paths of packages are pairwise different. A focus with a slash is answered by its
path. Any other one is ambiguous exactly if several packages bear it as their name, with the paths of all of them in
ascending order; it is the one package with this name if there is just one, and is answered by its path if there is
none. Packages in another order are answered for alike. -/
theorem never_guesses (hpaths : (packages.map Package.path).Nodup) (htrim : Text.trim focus = text) (hne : text ≠ "") :
    ('/' ∈ text.toList → ByPath text packages (resolve focus packages)) ∧
      ('/' ∉ text.toList → ByName text packages (resolve focus packages)) ∧
      ∀ packages', packages.Perm packages' →
        SameAnswer packages packages' (resolve focus packages) (resolve focus packages') := by
  subst htrim
  have htrim := Text.trim_trim focus
  refine ⟨fun hslash => ?_, fun hslash => ?_, fun packages' hperm => sameAnswer_of_perm hpaths hperm focus⟩
  · rw [← resolve_trim, resolve_slash htrim hslash]
    exact byPath_cases _ packages
  · rw [← resolve_trim]
    exact byName_resolve hpaths htrim hne hslash

/-- the name is ambiguous, with blanks around it and in either order, and a path leads to its package -/
theorem never_guesses_workers :
    ((workers.map Package.path).Nodup ∧ Text.trim " worker " = "worker" ∧ '/' ∉ "worker".toList ∧
      workers.Perm workers.reverse ∧ Text.trim "app/worker" = "app/worker" ∧ '/' ∈ "app/worker".toList) ∧
      (∃ paths, resolve " worker " workers = .ambiguous paths ∧ Ordered.Sorted Ordered.textBefore paths ∧
        paths.Perm ["lib/worker", "app/worker"]) ∧
      SameAnswer workers workers.reverse (resolve " worker " workers) (resolve " worker " workers.reverse) ∧
      ∃ id, At workers id "app/worker" ∧ resolve "app/worker" workers = .resolved id := by
  have hpaths : (workers.map Package.path).Nodup := by decide
  have htrim : Text.trim " worker " = "worker" := by decide
  have hbare : '/' ∉ "worker".toList := by decide
  have htrim' : Text.trim "app/worker" = "app/worker" := by decide
  have hslash : '/' ∈ "app/worker".toList := by decide
  have hreverse : workers.Perm workers.reverse := (List.reverse_perm workers).symm
  obtain ⟨-, hname, horder⟩ := never_guesses hpaths htrim (by decide)
  obtain ⟨hpath, -, -⟩ := never_guesses hpaths htrim' (by decide)
  obtain ⟨paths, hmany⟩ := (hname hbare).ambiguous_iff.2 (by decide)
  obtain ⟨hsorted, hperm⟩ := (hname hbare).candidates paths hmany
  have hexists : ¬ ∀ k ∈ workers, k.path ≠ "app/worker" := by decide
  exact ⟨⟨hpaths, htrim, hbare, hreverse, htrim', hslash⟩, ⟨paths, hmany, hsorted, hperm⟩, horder _ hreverse,
    (hpath hslash).resolve_right fun hnone => hexists hnone.1⟩

end CallAtlas.Focus
