/-
The package that owns a function, and the one that defines it.

A filter decides by the package in which a function is defined. Under packages a function is drawn in the package that
owns it, which for a generated wrapper is the one at the end of its chain of forwards. `Forwards` is one step of such a
chain.
- `exists_chain_of_owningPackage?`: the owner of a function defines the last function on its chain.
- `package_cluster_kept_or_wraps`: so the filter keeps the package of a cluster, or all that is drawn in the cluster are
  wrappers which are defined in kept packages and forward into this one.
- `hidden_package_drawn`: the second case happens, with an ignored package as the cluster.
-/
import CallAtlas.Proofs.Reduction

namespace CallAtlas.Program

open Relation

variable {p : Program} {id f : FunctionId} {owner : PackageId} {path : String} {filter : Filter} {grouping : Grouping}
  {keys : List ClusterKey}

/-! ## Chains of wrappers -/

/-- u is a generated wrapper that forwards to v -/
def Forwards (p : Program) (u v : FunctionId) : Prop :=
  ∃ f, p.functions[u]? = some f ∧ f.synthetic = true ∧ f.wraps = some v

/-- the package in which a function is defined has a path -/
def HomePath (p : Program) (f : FunctionId) (path : String) : Prop :=
  ∃ k, p.packageOf? f = some k ∧ k.path = path

theorem HomePath.unique {path' : String} (h : p.HomePath f path) (h' : p.HomePath f path') : path = path' := by
  obtain ⟨k, hk, rfl⟩ := h
  obtain ⟨k', hk', rfl⟩ := h'
  rw [Option.some.inj (hk.symm.trans hk')]

theorem exists_chain_of_chainPackage? {fresh : List FunctionId} (h : p.chainPackage? fresh id = some owner) :
    ∃ last, ReflTransGen p.Forwards id last ∧ p.DefinedIn owner last := by
  fun_induction chainPackage? p fresh id with
  | case1 fresh id hnone => cases h
  | case2 fresh id f hf target hwraps hsyn hfresh ih =>
    obtain ⟨last, hchain, hlast⟩ := ih h
    exact ⟨last, ReflTransGen.head ⟨f, hf, hsyn, hwraps⟩ hchain, hlast⟩
  | case3 fresh id f hf target hwraps hsyn hmet => exact ⟨id, ReflTransGen.refl, f, hf, Option.some.inj h⟩
  | case4 fresh id f hf hend => exact ⟨id, ReflTransGen.refl, f, hf, Option.some.inj h⟩

/-- **The owner.** It defines a function to which the chain of forwards leads. -/
theorem exists_chain_of_owningPackage? (h : p.owningPackage? id = some owner) :
    ∃ last, ReflTransGen p.Forwards id last ∧ p.DefinedIn owner last :=
  exists_chain_of_chainPackage? h

/-! ## Package clusters -/

theorem exists_package_of_packageKey? {key : ClusterKey} (h : p.packageKey? id = some key) :
    ∃ path, key = .package path := by
  obtain ⟨owner, -, h⟩ := Option.bind_eq_some_iff.1 h
  obtain ⟨k, -, h⟩ := Option.bind_eq_some_iff.1 h
  exact ⟨k.path, (Option.some.inj h).symm⟩

/-- under types there is one key or none -/
theorem cases_of_typeKeys? (h : p.typeKeys? id = some keys) : keys = [] ∨ ∃ owner name, keys = [.type owner name] := by
  unfold typeKeys? at h
  obtain ⟨f, -, h⟩ := Option.bind_eq_some_iff.1 h
  cases hr : f.receiver with
  | none =>
    simp only [hr, Option.some.injEq] at h
    exact Or.inl h.symm
  | some receiver =>
    simp only [hr] at h
    obtain ⟨k, -, h⟩ := Option.bind_eq_some_iff.1 h
    exact Or.inr ⟨k.path, receiver, (Option.some.inj h).symm⟩

/-- the keys of a function, one dimension after the other -/
theorem clusterKeys?_eq (p : Program) (grouping : Grouping) (id : FunctionId) :
    p.clusterKeys? grouping id =
      (if grouping.byPackage then (p.packageKey? id).map ([·]) else some []).bind fun packages =>
        (if grouping.byType then p.typeKeys? id else some []).map (packages ++ ·) := by
  unfold clusterKeys?
  cases grouping.byPackage <;> cases grouping.byType <;> cases p.packageKey? id <;> cases p.typeKeys? id <;> rfl

/-- **The keys of a function.** Its package, if packages are active, and then its type, if it has one that is active. -/
theorem exists_append_of_clusterKeys? (h : p.clusterKeys? grouping id = some keys) :
    ∃ packages types, keys = packages ++ types ∧
      (if grouping.byPackage then ∃ path, p.packageKey? id = some (.package path) ∧ packages = [.package path]
        else packages = []) ∧
      (types = [] ∨ ∃ owner name, types = [.type owner name]) := by
  rw [clusterKeys?_eq] at h
  obtain ⟨packages, hpackages, h⟩ := Option.bind_eq_some_iff.1 h
  obtain ⟨types, htypes, rfl⟩ := Option.map_eq_some_iff.1 h
  refine ⟨packages, types, rfl, ?_, ?_⟩
  · split_ifs at hpackages ⊢
    · obtain ⟨key, hkey, rfl⟩ := Option.map_eq_some_iff.1 hpackages
      obtain ⟨path, rfl⟩ := exists_package_of_packageKey? hkey
      exact ⟨path, hkey, rfl⟩
    · exact (Option.some.inj hpackages).symm
  · split_ifs at htypes
    · exact cases_of_typeKeys? htypes
    · exact Or.inl (Option.some.inj htypes).symm

/-- under each dimension there is one key or none -/
theorem cases_of_clusterKeys? (h : p.clusterKeys? grouping id = some keys) :
    ∃ packages types, keys = packages ++ types ∧ (packages = [] ∨ ∃ path, packages = [.package path]) ∧
      (types = [] ∨ ∃ owner name, types = [.type owner name]) := by
  obtain ⟨packages, types, rfl, hpackages, htypes⟩ := exists_append_of_clusterKeys? h
  refine ⟨packages, types, rfl, ?_, htypes⟩
  split_ifs at hpackages
  · exact Or.inr (hpackages.imp fun _ => And.right)
  · exact Or.inl hpackages

/-- a package and a type among the keys of one function are all its keys -/
theorem eq_of_mem_clusterKeys? {owner name : String} (h : p.clusterKeys? grouping id = some keys)
    (hpackage : ClusterKey.package path ∈ keys) (htype : ClusterKey.type owner name ∈ keys) :
    keys = [.package path, .type owner name] := by
  obtain ⟨packages, types, rfl, hpackages, htypes⟩ := cases_of_clusterKeys? h
  rcases hpackages with rfl | ⟨path, rfl⟩ <;> rcases htypes with rfl | ⟨owner, name, rfl⟩ <;> simp_all

theorem packageKey?_of_mem_clusterKeys? (h : p.clusterKeys? grouping id = some keys)
    (hmem : ClusterKey.package path ∈ keys) : p.packageKey? id = some (.package path) := by
  obtain ⟨packages, types, rfl, hpackages, htypes⟩ := exists_append_of_clusterKeys? h
  have hmem : ClusterKey.package path ∈ packages := by
    rcases htypes with rfl | ⟨owner, name, rfl⟩
    · simpa using hmem
    · simpa using hmem
  split_ifs at hpackages
  · obtain ⟨path', hkey, rfl⟩ := hpackages
    rw [hkey, List.mem_singleton.1 hmem]
  · subst hpackages
    cases hmem

/-- a function is drawn in the package of the function at the end of its chain -/
theorem exists_chain_of_packageKey? (h : p.packageKey? id = some (.package path)) :
    ∃ last, ReflTransGen p.Forwards id last ∧ p.HomePath last path := by
  obtain ⟨owner, howner, h⟩ := Option.bind_eq_some_iff.1 h
  obtain ⟨k, hk, h⟩ := Option.bind_eq_some_iff.1 h
  cases h
  obtain ⟨last, hchain, f, hf, rfl⟩ := exists_chain_of_owningPackage? howner
  exact ⟨last, hchain, k, by simp [packageOf?, hf, hk], rfl⟩

theorem keeps?_eq_some_true (h : p.keeps? filter f = some true) :
    ∃ home, p.HomePath f home ∧ filter.keepsPath p.ownModules p.libraryModules home = true := by
  obtain ⟨k, hk, hkeeps⟩ := Option.map_eq_some_iff.1 h
  exact ⟨k.path, ⟨k, hk, rfl⟩, hkeeps⟩

/-- a wrapper that is defined in a kept package and forwards, directly or not, to a function of another package -/
def WrapsInto (p : Program) (filter : Filter) (f : FunctionId) (path : String) : Prop :=
  (∃ home, p.HomePath f home ∧ home ≠ path ∧ filter.keepsPath p.ownModules p.libraryModules home = true) ∧
    ∃ last, TransGen p.Forwards f last ∧ p.HomePath last path

/-- **What a hidden cluster holds.** The filter keeps the package of a cluster, or every function in the cluster is a
wrapper which is defined in another package that the filter keeps, and forwards into this one. So nothing else brings
an ignored package back. -/
theorem package_cluster_kept_or_wraps (h : p.InRange) (scope : Scope) (hs : scope.InRange p) (filter : Filter)
    (grouping : Grouping) :
    ∃ g, p.reduce? scope filter grouping = some g ∧
      ∀ path, (∃ n ∈ g.nodes, ClusterKey.package path ∈ n.clusters) →
        (filter.keepsPath p.ownModules p.libraryModules path = true ∧ hasAnyPrefix path filter.ignore = false) ∨
          ∀ n ∈ g.nodes, ClusterKey.package path ∈ n.clusters → p.WrapsInto filter n.id path := by
  obtain ⟨g, hreduce, hg⟩ := h.exists_reduce? hs filter grouping
  refine ⟨g, hreduce, fun path _ => ?_⟩
  by_cases hkeep : filter.keepsPath p.ownModules p.libraryModules path = true
  · exact Or.inl ⟨hkeep, Filter.not_ignored_of_keepsPath hkeep⟩
  · refine Or.inr fun n hn hkey => ?_
    obtain ⟨home, hhome, hkeeps⟩ := keeps?_eq_some_true (hg.hasNode_iff.1 ⟨n, hn, rfl⟩).2
    obtain ⟨last, hchain, hlast⟩ := exists_chain_of_packageKey? (packageKey?_of_mem_clusterKeys? (hg.clusters n hn) hkey)
    have hne : home ≠ path := by
      rintro rfl
      exact hkeep hkeeps
    refine ⟨⟨home, hhome, hne, hkeeps⟩, last, ?_, hlast⟩
    -- a chain without steps would end in the function's own package
    rcases reflTransGen_iff_eq_or_transGen.1 hchain with rfl | hsteps
    · exact absurd (hhome.unique hlast) hne
    · exact hsteps

/-- main calls a wrapper of its own package, which forwards to a function of an internal one -/
def shim : Program where
  packages := [⟨"app", "main"⟩, ⟨"app/internal", "internal"⟩]
  functions := [{ name := "main", package := 0 }, { name := "open", package := 1 },
    { name := "open$bound", package := 0, synthetic := true, wraps := some 1 }]
  calls := [{ caller := 0, callee := 2 }, { caller := 2, callee := 1 }]

/-- the wrapper alone is drawn in the internal package, which is ignored -/
theorem package_cluster_kept_or_wraps_shim :
    shim.InRange ∧ (Scope.roots [0]).InRange shim ∧
      ∃ g, shim.reduce? (.roots [0]) { ignore := ["app/internal"] } { byPackage := true } = some g ∧
        (⟨2, [.package "app/internal"]⟩ : Node) ∈ g.nodes ∧
        shim.WrapsInto { ignore := ["app/internal"] } 2 "app/internal" := by
  have hin : shim.InRange := by decide
  have hroots : (Scope.roots [0]).InRange shim := by decide
  obtain ⟨g, hreduce, hcluster⟩ :=
    package_cluster_kept_or_wraps hin (.roots [0]) hroots { ignore := ["app/internal"] } { byPackage := true }
  have hnode : (⟨2, [.package "app/internal"]⟩ : Node) ∈ g.nodes := by
    have hnodes : (shim.reduce? (.roots [0]) { ignore := ["app/internal"] } { byPackage := true }).map Graph.nodes =
        some [⟨0, [.package "app"]⟩, ⟨2, [.package "app/internal"]⟩] := by decide +kernel
    rw [hreduce, Option.map_some, Option.some.injEq] at hnodes
    simp [hnodes]
  rcases hcluster "app/internal" ⟨_, hnode, List.mem_singleton.2 rfl⟩ with ⟨hkeep, -⟩ | hwraps
  · exact absurd hkeep (by decide)
  · exact ⟨hin, hroots, g, hreduce, hnode, hwraps _ hnode (List.mem_singleton.2 rfl)⟩

/-- **An ignored package is drawn as a cluster.** A kept wrapper brings it back. -/
theorem hidden_package_drawn :
    shim.InRange ∧ (Scope.roots [0]).InRange shim ∧
      ∃ g, shim.reduce? (.roots [0]) { ignore := ["app/internal"] } { byPackage := true } = some g ∧
        (∃ n ∈ g.nodes, ClusterKey.package "app/internal" ∈ n.clusters) ∧
          hasAnyPrefix "app/internal" ["app/internal"] = true ∧
            Filter.keepsPath { ignore := ["app/internal"] } shim.ownModules shim.libraryModules "app/internal" =
              false := by
  have hnodes : (shim.reduce? (.roots [0]) { ignore := ["app/internal"] } { byPackage := true }).map Graph.nodes =
      some [⟨0, [.package "app"]⟩, ⟨2, [.package "app/internal"]⟩] := by decide +kernel
  obtain ⟨g, hreduce, hg⟩ := Option.map_eq_some_iff.1 hnodes
  exact ⟨by decide, by decide, g, hreduce, by simp [hg], by decide, by decide⟩

end CallAtlas.Program
