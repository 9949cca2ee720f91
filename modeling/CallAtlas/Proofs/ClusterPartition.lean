/-
How the clusters divide what is shown.

A node has at most one key of each dimension, whatever its chain of wrappers is. So under packages the clusters divide
the nodes, and under types they divide the methods.
- `clusters_eq_filed`: the list of clusters is what comes of filing the nodes, one after another, under each of their
  keys; `FiledAs` is kept by each filing (`filedAs_fileUnder`).
- `type_mem_clusterKeys?_iff`, `nodup_of_clusterKeys?`: which keys a function has, each of them once.
- `existsUnique_cluster`: a node with one key of a dimension is in one cluster of it.
- `clusters_divide`: so clusters hold the nodes with their key, in ascending order, and every node is in one package
  cluster and every method in one type cluster, as far as these are active.
-/
import CallAtlas.Proofs.WrapperChains

namespace CallAtlas

/-! ## Filing -/

/-- a function filed under a key, at the end of the members that are there -/
def fileUnder (clusters : List (ClusterKey × List FunctionId)) (x : ClusterKey × FunctionId) :
    List (ClusterKey × List FunctionId) :=
  Ordered.joinEntry ClusterKey.before Prod.fst (x.1, [x.2]) (fun c => (c.1, c.2 ++ [x.2])) clusters

/-- clusters hold what was filed under their keys, in this order -/
structure FiledAs (xs : List (ClusterKey × FunctionId)) (clusters : List (ClusterKey × List FunctionId)) : Prop where
  sorted : Ordered.Sorted ClusterKey.before (clusters.map Prod.fst)
  mem_keys : ∀ key, key ∈ clusters.map Prod.fst ↔ key ∈ xs.map Prod.fst
  members : ∀ c ∈ clusters, c.2 = (xs.filter fun x => x.1 = c.1).map Prod.snd

section FiledAs

variable {xs : List (ClusterKey × FunctionId)} {clusters clusters' : List (ClusterKey × List FunctionId)}

theorem map_fst_fileUnder (x : ClusterKey × FunctionId) :
    (fileUnder clusters x).map Prod.fst = Ordered.insert ClusterKey.before x.1 (clusters.map Prod.fst) :=
  Ordered.map_key_joinEntry fun _ => rfl

theorem filedAs_fileUnder (h : FiledAs xs clusters) (x : ClusterKey × FunctionId) :
    FiledAs (xs ++ [x]) (fileUnder clusters x) where
  sorted := by
    rw [map_fst_fileUnder]
    exact Ordered.sorted_insert ClusterKey.isOrder_before h.sorted
  mem_keys key := by
    rw [map_fst_fileUnder, Ordered.mem_insert ClusterKey.isOrder_before, h.mem_keys, List.map_append, List.mem_append,
      List.map_singleton, List.mem_singleton, or_comm]
  members c hc := by
    rw [List.filter_append, List.map_append]
    rcases Ordered.mem_joinEntry ClusterKey.isOrder_before h.sorted hc with ⟨hc, hne⟩ | ⟨c', hc', heq, rfl⟩ | ⟨hall, rfl⟩
    · have hne : x.1 ≠ c.1 := hne
      simp [h.members c hc, hne]
    · have heq : x.1 = c'.1 := heq
      simp [h.members c' hc', heq]
    · -- nothing was filed under a key that is new
      have hnone : x.1 ∉ xs.map Prod.fst := by
        rw [← h.mem_keys, List.mem_map]
        rintro ⟨c', hc', heq⟩
        exact hall c' hc' heq.symm
      have hempty : (xs.filter fun y => y.1 = x.1) = [] := by
        rw [List.filter_eq_nil_iff]
        intro y hy heq
        exact hnone (of_decide_eq_true heq ▸ List.mem_map_of_mem hy)
      simp [hempty]

theorem filedAs_foldl (xs : List (ClusterKey × FunctionId)) : FiledAs xs (xs.foldl fileUnder []) := by
  induction xs using List.reverseRecOn with
  | nil => exact ⟨List.Pairwise.nil, by simp, by simp⟩
  | append_singleton xs x ih =>
    rw [List.foldl_concat]
    exact filedAs_fileUnder ih x

/-- what was filed tells the clusters -/
theorem FiledAs.unique (h : FiledAs xs clusters) (h' : FiledAs xs clusters') : clusters = clusters' := by
  have hsub : ∀ {cs cs' : List (ClusterKey × List FunctionId)}, FiledAs xs cs → FiledAs xs cs' → cs ⊆ cs' := by
    intro cs cs' hcs hcs' c hc
    obtain ⟨c', hc', hkey⟩ := List.mem_map.1 ((hcs'.mem_keys c.1).2 ((hcs.mem_keys c.1).1 (List.mem_map_of_mem hc)))
    have hmembers : c'.2 = c.2 := by rw [hcs'.members c' hc', hcs.members c hc, hkey]
    rwa [← Prod.ext hkey hmembers]
  exact Ordered.eq_of_mem_iff_of_sorted_map ClusterKey.isOrder_before h.sorted h'.sorted
    fun c => ⟨fun hc => hsub h h' hc, fun hc => hsub h' h hc⟩

end FiledAs

namespace Graph

variable {g : Graph} {key : ClusterKey} {n : Node}

/-- the nodes filed one after another, each under its keys in their order -/
def filed (g : Graph) : List (ClusterKey × List FunctionId) :=
  g.nodes.foldl (fun clusters n => n.clusters.foldl (fun clusters key => fileUnder clusters (key, n.id)) clusters) []

/-- a node is filed once under a key that it has once -/
theorem map_snd_filter_filings (nodes : List Node) (hnodup : ∀ n ∈ nodes, n.clusters.Nodup) (key : ClusterKey) :
    ((nodes.flatMap fun n => n.clusters.map (·, n.id)).filter fun x => x.1 = key).map Prod.snd =
      (nodes.filter fun n => n.clusters.contains key).map Node.id := by
  induction nodes with
  | nil => rfl
  | cons n nodes ih =>
    obtain ⟨hn, hnodes⟩ := List.forall_mem_cons.1 hnodup
    have hone : ((n.clusters.map (·, n.id)).filter fun x => x.1 = key).map Prod.snd =
        if n.clusters.contains key then [n.id] else [] := by
      have hkey : (n.clusters.filter fun k => decide (k = key)) = if key ∈ n.clusters then [key] else [] := by
        rw [show (fun k => decide (k = key)) = (· == key) from rfl, List.filter_beq, hn.count]
        split <;> rfl
      rw [List.filter_map, List.map_map, show ((fun x : ClusterKey × FunctionId => decide (x.1 = key)) ∘ (·, n.id)) =
        fun k => decide (k = key) from rfl, hkey]
      by_cases hmem : key ∈ n.clusters <;> simp [hmem]
    rw [List.flatMap_cons, List.filter_append, List.map_append, hone, ih hnodes, List.filter_cons]
    split <;> rfl

/-- **Clusters are an index.** Filing the nodes under their keys gives the clusters, if no node has a key twice. -/
theorem clusters_eq_filed (hnodup : ∀ n ∈ g.nodes, n.clusters.Nodup) : g.clusters = g.filed := by
  have hfiled : g.filed = (g.nodes.flatMap fun n => n.clusters.map (·, n.id)).foldl fileUnder [] := by
    simp only [filed, List.foldl_flatMap, List.foldl_map]
  rw [hfiled]
  refine FiledAs.unique ?_ (filedAs_foldl _)
  constructor
  case sorted => exact g.sorted_clusters
  case mem_keys =>
    intro key
    simp [map_fst_clusters, Ordered.mem_ofList ClusterKey.isOrder_before]
  case members =>
    rintro ⟨key, members⟩ hc
    rw [(mem_clusters.1 hc).2, Graph.members, map_snd_filter_filings g.nodes hnodup]

/-! ## Nodes in clusters -/

/-- a node is a member of the clusters of its keys -/
theorem mem_members_iff (hids : (g.nodes.map Node.id).Nodup) (hn : n ∈ g.nodes) :
    n.id ∈ g.members key ↔ key ∈ n.clusters := by
  rw [mem_members]
  constructor
  · rintro ⟨m, hm, hkey, hid⟩
    rwa [← List.inj_on_of_nodup_map hids hm hn hid]
  · exact fun hkey => ⟨n, hn, hkey, rfl⟩

theorem mem_iff_of_mem_clusters (hids : (g.nodes.map Node.id).Nodup) (hn : n ∈ g.nodes)
    {c : ClusterKey × List FunctionId} (hc : c ∈ g.clusters) : n.id ∈ c.2 ↔ c.1 ∈ n.clusters := by
  obtain ⟨key, members⟩ := c
  obtain ⟨-, rfl⟩ := mem_clusters.1 hc
  exact mem_members_iff hids hn

/-- **One cluster a dimension.** A node with one key of a dimension is in one cluster of this dimension. -/
theorem existsUnique_cluster (hids : (g.nodes.map Node.id).Nodup) (hn : n ∈ g.nodes) (hkey : key ∈ n.clusters)
    (hone : ∀ key' ∈ n.clusters, key'.dimension = key.dimension → key' = key) :
    ∃! c, c ∈ g.clusters ∧ c.1.dimension = key.dimension ∧ n.id ∈ c.2 := by
  refine ⟨(key, g.members key), ⟨mem_clusters.2 ⟨⟨n, hn, hkey⟩, rfl⟩, rfl, (mem_members_iff hids hn).2 hkey⟩, ?_⟩
  rintro ⟨key', members⟩ ⟨hc, hdimension, hmem⟩
  have hkey' : key' = key := hone key' ((mem_iff_of_mem_clusters hids hn hc).1 hmem) hdimension
  rw [(mem_clusters.1 hc).2, hkey']

/-! ## The order of keys -/

/-- ascending keys are packages and then types -/
theorem exists_append_of_sorted {keys : List ClusterKey} (h : Ordered.Sorted ClusterKey.before keys) :
    ∃ (paths : List String) (types : List (String × String)),
      keys = paths.map ClusterKey.package ++ types.map (fun t => ClusterKey.type t.1 t.2) ∧
        paths.Pairwise (· < ·) ∧ types.Pairwise fun s t => s.1 < t.1 ∨ s.1 = t.1 ∧ s.2 < t.2 := by
  have hsplit : ∃ (paths : List String) (types : List (String × String)),
      keys = paths.map ClusterKey.package ++ types.map fun t => ClusterKey.type t.1 t.2 := by
    induction keys with
    | nil => exact ⟨[], [], rfl⟩
    | cons key keys ih =>
      obtain ⟨hfirst, hkeys⟩ := List.pairwise_cons.1 h
      obtain ⟨paths, types, rfl⟩ := ih hkeys
      cases key with
      | package path => exact ⟨path :: paths, types, rfl⟩
      | type owner name =>
        cases paths with
        | nil => exact ⟨[], (owner, name) :: types, rfl⟩
        | cons path paths => cases hfirst (.package path) (by simp)
  obtain ⟨paths, types, rfl⟩ := hsplit
  obtain ⟨hpaths, htypes, -⟩ := List.pairwise_append.1 h
  refine ⟨paths, types, rfl, (List.pairwise_map.1 hpaths).imp of_decide_eq_true, (List.pairwise_map.1 htypes).imp ?_⟩
  intro s t hst
  have hst := (Ordered.pairBefore_iff Ordered.isOrder_text).1 hst
  exact hst.imp of_decide_eq_true (And.imp_right of_decide_eq_true)

end Graph

namespace Program

variable {p : Program} {scope : Scope} {filter : Filter} {grouping : Grouping} {g : Graph} {f : FunctionId}
  {keys : List ClusterKey} {n : Node}

/-! ## The keys of a function -/

/-- f is a method of a type with a name -/
def MethodOf (p : Program) (f : FunctionId) (name : String) : Prop :=
  ∃ fn, p.functions[f]? = some fn ∧ fn.receiver = some name

theorem type_mem_typeKeys?_iff {owner name : String} (h : p.typeKeys? f = some keys) :
    ClusterKey.type owner name ∈ keys ↔ p.MethodOf f name ∧ p.HomePath f owner := by
  unfold typeKeys? at h
  obtain ⟨fn, hfn, h⟩ := Option.bind_eq_some_iff.1 h
  cases hreceiver : fn.receiver with
  | none =>
    simp only [hreceiver, Option.some.injEq] at h
    simp [← h, MethodOf, hfn, hreceiver]
  | some receiver =>
    simp only [hreceiver] at h
    obtain ⟨k, hk, h⟩ := Option.bind_eq_some_iff.1 h
    cases h
    simp [MethodOf, HomePath, packageOf?, hfn, hreceiver, hk, and_comm, eq_comm]

/-- a function has the key of its receiver type, in the package that defines it -/
theorem type_mem_clusterKeys?_iff {owner name : String} (h : p.clusterKeys? grouping f = some keys) :
    ClusterKey.type owner name ∈ keys ↔
      grouping.byType = true ∧ p.MethodOf f name ∧ p.HomePath f owner := by
  rw [clusterKeys?_eq] at h
  obtain ⟨packages, hpackages, h⟩ := Option.bind_eq_some_iff.1 h
  obtain ⟨types, htypes, rfl⟩ := Option.map_eq_some_iff.1 h
  have hnone : ClusterKey.type owner name ∉ packages := by
    split_ifs at hpackages
    · obtain ⟨key, hkey, rfl⟩ := Option.map_eq_some_iff.1 hpackages
      obtain ⟨path, rfl⟩ := exists_package_of_packageKey? hkey
      simp
    · cases hpackages
      simp
  rw [List.mem_append, or_iff_right hnone]
  split_ifs at htypes with hby
  · rw [type_mem_typeKeys?_iff htypes]
    simp [hby]
  · cases htypes
    simp [hby]

theorem nodup_of_clusterKeys? (h : p.clusterKeys? grouping f = some keys) : keys.Nodup := by
  obtain ⟨packages, types, rfl, hpackages, htypes⟩ := cases_of_clusterKeys? h
  rcases hpackages with rfl | ⟨path, rfl⟩ <;> rcases htypes with rfl | ⟨owner, name, rfl⟩ <;> simp

/-- a function is a method of one type -/
theorem MethodOf.unique {name name' : String} (h : p.MethodOf f name) (h' : p.MethodOf f name') : name = name' := by
  obtain ⟨fn, hfn, hname⟩ := h
  obtain ⟨fn', hfn', hname'⟩ := h'
  rw [Option.some.inj (hfn.symm.trans hfn')] at hname
  exact Option.some.inj (hname.symm.trans hname')

theorem eq_of_package_mem {key : ClusterKey} {path : String} (h : p.clusterKeys? grouping f = some keys)
    (hpath : ClusterKey.package path ∈ keys) (hkey : key ∈ keys) (hdimension : key.dimension = .package) :
    key = .package path := by
  cases key with
  | package path' =>
    have hsame := (packageKey?_of_mem_clusterKeys? h hkey).symm.trans (packageKey?_of_mem_clusterKeys? h hpath)
    exact Option.some.inj hsame
  | type owner name => cases hdimension

theorem eq_of_type_mem {key : ClusterKey} {owner name : String} (h : p.clusterKeys? grouping f = some keys)
    (htype : ClusterKey.type owner name ∈ keys) (hkey : key ∈ keys) (hdimension : key.dimension = .type) :
    key = .type owner name := by
  cases key with
  | package path => cases hdimension
  | type owner' name' =>
    obtain ⟨-, hmethod, hhome⟩ := (type_mem_clusterKeys?_iff h).1 htype
    obtain ⟨-, hmethod', hhome'⟩ := (type_mem_clusterKeys?_iff h).1 hkey
    rw [hmethod.unique hmethod', hhome.unique hhome']

/-! ## Clusters of a reduced graph -/

/-- how the clusters of a graph divide its nodes -/
structure Divides (p : Program) (grouping : Grouping) (g : Graph) : Prop where
  /-- clusters are what comes of filing node by node under each key -/
  filed : g.clusters = g.filed
  members : ∀ c ∈ g.clusters, c.2 ≠ [] ∧ c.2.Pairwise (· < ·) ∧ ∀ f, f ∈ c.2 ↔ ∃ n ∈ g.nodes, n.id = f ∧ c.1 ∈ n.clusters
  /-- every key that a node has is that of a cluster -/
  keys : ∀ n ∈ g.nodes, ∀ key ∈ n.clusters, key ∈ g.clusters.map Prod.fst
  /-- packages by path, and then types by package and name -/
  order : ∃ (paths : List String) (types : List (String × String)),
    g.clusters.map Prod.fst = paths.map ClusterKey.package ++ types.map (fun t => ClusterKey.type t.1 t.2) ∧
      paths.Pairwise (· < ·) ∧ types.Pairwise fun s t => s.1 < t.1 ∨ s.1 = t.1 ∧ s.2 < t.2
  packages : grouping.byPackage = true → ∀ f, g.HasNode f →
    ∃! c, c ∈ g.clusters ∧ c.1.dimension = .package ∧ f ∈ c.2
  noPackages : grouping.byPackage = false → ∀ c ∈ g.clusters, c.1.dimension ≠ .package
  types : grouping.byType = true → ∀ f, g.HasNode f → (∃ name, p.MethodOf f name) →
    ∃! c, c ∈ g.clusters ∧ c.1.dimension = .type ∧ f ∈ c.2
  /-- plain functions are in no type cluster -/
  plain : ∀ f, (¬ ∃ name, p.MethodOf f name) → ∀ c ∈ g.clusters, c.1.dimension = .type → f ∉ c.2
  noTypes : grouping.byType = false → ∀ c ∈ g.clusters, c.1.dimension ≠ .type

theorem InRange.exists_homePath (h : p.InRange) (hf : f < p.functions.length) : ∃ path, p.HomePath f path := by
  obtain ⟨k, hk⟩ := h.exists_packageOf? hf
  exact ⟨k.path, k, hk, rfl⟩

theorem ReducesTo.divides (hg : p.ReducesTo scope filter grouping g) (h : p.InRange) (hs : scope.InRange p) :
    p.Divides grouping g := by
  have hids : (g.nodes.map Node.id).Nodup := hg.sorted_ids.nodup Ordered.isOrder_nat
  have hlt : ∀ n ∈ g.nodes, n.id < p.functions.length := fun n hn => hg.lt_of_hasNode h hs ⟨n, hn, rfl⟩
  -- every key of a cluster is the key of some node
  have hkey : ∀ c ∈ g.clusters, ∃ n ∈ g.nodes, c.1 ∈ n.clusters := fun c hc => (Graph.mem_clusters.1 hc).1
  constructor
  case filed => exact Graph.clusters_eq_filed fun n hn => nodup_of_clusterKeys? (hg.clusters n hn)
  case members =>
    rintro ⟨key, members⟩ hc
    obtain ⟨⟨n, hn, hmem⟩, rfl⟩ := Graph.mem_clusters.1 hc
    refine ⟨List.ne_nil_of_mem ((Graph.mem_members_iff hids hn).2 hmem), ?_, fun f => ?_⟩
    · have hsorted : Ordered.Sorted Ordered.natBefore (g.members key) :=
        hg.sorted_ids.sublist (List.filter_sublist.map Node.id)
      exact hsorted.imp of_decide_eq_true
    · rw [Graph.mem_members]
      simp only [and_comm]
  case keys =>
    intro n hn key hmem
    exact List.mem_map_of_mem (Graph.mem_clusters.2 ⟨⟨n, hn, hmem⟩, rfl⟩)
  case order => exact Graph.exists_append_of_sorted g.sorted_clusters
  case packages =>
    rintro hby f ⟨n, hn, rfl⟩
    obtain ⟨key, hpackage⟩ := h.exists_packageKey? (hlt n hn)
    obtain ⟨path, rfl⟩ := exists_package_of_packageKey? hpackage
    have hmem := (mem_clusterKeys?_iff (hg.clusters n hn)).2 ⟨hby, hpackage⟩
    exact Graph.existsUnique_cluster hids hn hmem fun key => eq_of_package_mem (hg.clusters n hn) hmem
  case noPackages =>
    rintro hby ⟨key, members⟩ hc hdimension
    obtain ⟨n, hn, hmem⟩ := hkey _ hc
    cases key with
    | package path => simpa [hby] using ((mem_clusterKeys?_iff (hg.clusters n hn)).1 hmem).1
    | type owner name => cases hdimension
  case types =>
    rintro hby f ⟨n, hn, rfl⟩ ⟨name, hmethod⟩
    obtain ⟨owner, hhome⟩ := h.exists_homePath (hlt n hn)
    have hmem := (type_mem_clusterKeys?_iff (hg.clusters n hn)).2 ⟨hby, hmethod, hhome⟩
    exact Graph.existsUnique_cluster hids hn hmem fun key => eq_of_type_mem (hg.clusters n hn) hmem
  case plain =>
    rintro f hplain ⟨key, members⟩ hc hdimension hf
    obtain ⟨n, hn, rfl⟩ := Graph.hasNode_of_mem_clusters hc hf
    have hmem := (Graph.mem_iff_of_mem_clusters hids hn hc).1 hf
    cases key with
    | package path => cases hdimension
    | type owner name => exact hplain ⟨name, ((type_mem_clusterKeys?_iff (hg.clusters n hn)).1 hmem).2.1⟩
  case noTypes =>
    rintro hby ⟨key, members⟩ hc hdimension
    obtain ⟨n, hn, hmem⟩ := hkey _ hc
    cases key with
    | package path => cases hdimension
    | type owner name => simpa [hby] using ((type_mem_clusterKeys?_iff (hg.clusters n hn)).1 hmem).1

/-- **Clusters divide the graph.** Whatever the scope, the filter and the grouping are, there is a graph if and only if
the roots exist. Its clusters have the nodes with their key, at least one and in ascending order, and packages come
before types, each in ascending order. Under packages every node is in exactly one package cluster, also if its chain of
wrappers runs in a circle; under types every method is in exactly one type cluster, and plain functions are in none. A
dimension that is not active has no clusters. -/
theorem clusters_divide (h : p.InRange) (scope : Scope) (filter : Filter) (grouping : Grouping) :
    ((∃ g, p.reduce? scope filter grouping = some g) ↔ scope.InRange p) ∧
      ∀ g, p.reduce? scope filter grouping = some g → p.Divides grouping g := by
  refine ⟨⟨?_, fun hs => ?_⟩, fun g hreduce => ?_⟩
  · rintro ⟨g, hreduce⟩
    exact scope_inRange_of_reduce? hreduce
  · obtain ⟨g, hreduce, -⟩ := h.exists_reduce? hs filter grouping
    exact ⟨g, hreduce⟩
  · exact (h.reducesTo hreduce).divides h (scope_inRange_of_reduce? hreduce)

/-- main calls a wrapper, which forwards to a wrapper of the other package that forwards back to it -/
def thunks : Program where
  packages := [⟨"app", "main"⟩, ⟨"app/store", "store"⟩]
  functions := [{ name := "main", package := 0 }, { name := "Get", package := 1, receiver := some "Store" },
    { name := "Get$bound", package := 0, synthetic := true, wraps := some 3 },
    { name := "Get$thunk", package := 1, receiver := some "Store", synthetic := true, wraps := some 2 }]
  calls := [{ caller := 0, callee := 2 }, { caller := 2, callee := 3 }, { caller := 3, callee := 1 }]

/-- two package clusters and one type cluster; the wrapper in the circle is in one package cluster and in no other -/
theorem clusters_divide_thunks :
    thunks.InRange ∧ (Scope.roots [0]).InRange thunks ∧
      ∃ g, thunks.reduce? (.roots [0]) {} { byPackage := true, byType := true } = some g ∧
        g.clusters = [(.package "app", [0, 2]), (.package "app/store", [1, 3]), (.type "app/store" "Store", [1, 3])] ∧
          g.clusters = g.filed ∧ ∃! c, c ∈ g.clusters ∧ c.1.dimension = .package ∧ 2 ∈ c.2 := by
  have hin : thunks.InRange := by decide
  have hroots : (Scope.roots [0]).InRange thunks := by decide
  obtain ⟨hgraphs, hall⟩ := clusters_divide hin (.roots [0]) {} { byPackage := true, byType := true }
  obtain ⟨g, hreduce⟩ := hgraphs.2 hroots
  have hdivides := hall g hreduce
  have hgraph : (thunks.reduce? (.roots [0]) {} { byPackage := true, byType := true }).map
      (fun g => (g.clusters, g.nodes.map Node.id)) =
        some ([(.package "app", [0, 2]), (.package "app/store", [1, 3]), (.type "app/store" "Store", [1, 3])],
          [0, 1, 2, 3]) := by
    decide +kernel
  rw [hreduce, Option.map_some, Option.some.injEq, Prod.mk.injEq] at hgraph
  obtain ⟨hclusters, hids⟩ := hgraph
  have hnode : g.HasNode 2 := Graph.hasNode_iff_mem_ids.2 (by simp [hids])
  exact ⟨hin, hroots, g, hreduce, hclusters, hdivides.filed, hdivides.packages rfl 2 hnode⟩

end Program

end CallAtlas
