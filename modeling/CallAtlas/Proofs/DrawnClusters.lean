/-
The clusters of a drawing and the clusters of its graph.

`Draws` says what a run of statements adds to a reading: clusters for some lists of keys and nodes for some items. Each
way in which statements are put together has a lemma about it, up to `exists_statements?`: in a program whose ids exist
a graph has a drawing, and it draws the nests and the nodes of the plan.
- `sameClusters`: what is drawn opens clusters for the keys of the graph and for no others, and holds in the clusters of
  a key exactly its members. A package has one cluster; a type has one in each package cluster that it shares a member
  with, and one in all if packages are not drawn.
-/
import CallAtlas.Proofs.Nesting
import CallAtlas.Proofs.Ownership

namespace CallAtlas.Drawing

open Dot

variable {p : Program} {g : Graph} {grouping : Grouping} {statements statements' : List Statement}
  {opened opened' : List (List ClusterKey)} {items items' : List Item} {key : ClusterKey} {id : FunctionId}

/-! ## What statements draw -/

/-- A reading goes on with a cluster for each list of keys and a node for each item, and with the same clusters open
as before. -/
def Draws (p : Program) (g : Graph) (statements : List Statement) (opened : List (List ClusterKey))
    (items : List Item) : Prop :=
  ∃ clusters nodes,
    (∀ r : Reading, statements.foldl Reading.step r = r.add clusters nodes) ∧
      List.Forall₂ (ShowAll p g) opened clusters ∧
        List.Forall₂ (fun i n => n.1 = nodeId i.2 ∧ ShowAll p g i.1 n.2) items nodes

theorem Draws.of_still (h : ∀ s ∈ statements, ∀ r : Reading, r.step s = r) : Draws p g statements [] [] := by
  refine ⟨[], [], fun r => ?_, List.Forall₂.nil, List.Forall₂.nil⟩
  rw [Reading.add_nil]
  induction statements with
  | nil => rfl
  | cons s rest ih =>
    obtain ⟨hs, hrest⟩ := List.forall_mem_cons.1 h
    rw [List.foldl_cons, hs r, ih hrest]

theorem Draws.append (h : Draws p g statements opened items) (h' : Draws p g statements' opened' items') :
    Draws p g (statements ++ statements') (opened ++ opened') (items ++ items') := by
  obtain ⟨clusters, nodes, hread, hclusters, hnodes⟩ := h
  obtain ⟨clusters', nodes', hread', hclusters', hnodes'⟩ := h'
  refine ⟨clusters ++ clusters', nodes ++ nodes', fun r => ?_, List.rel_append hclusters hclusters',
    List.rel_append hnodes hnodes'⟩
  rw [List.foldl_append, hread, hread', Reading.add_add]

/-- a cluster around what is drawn -/
theorem Draws.exists_clusterStatements? (h : Draws p g statements opened items) (number : Nat) (key : ClusterKey) :
    ∃ own, clusterStatements? p g number key statements = some own ∧
      Draws p g own ([key] :: opened.map (key :: ·)) (items.map (under key)) := by
  obtain ⟨attributes, hkey⟩ := exists_clusterAttributes? p g key
  obtain ⟨clusters, nodes, hread, hclusters, hnodes⟩ := h
  let o : Opening := (toString number ++ "_" ++ key.text, attributes)
  have ho : Shows p g key o := hkey
  refine ⟨_, by simp only [clusterStatements?, hkey]; rfl, [o] :: clusters.map (o :: ·),
    nodes.map fun n => (n.1, o :: n.2), fun r => ?_, ?_, ?_⟩
  · rw [List.foldl_cons, List.foldl_append, hread]
    exact r.step_close_add_step_open o clusters nodes
  · refine List.Forall₂.cons (ShowAll.cons ho rfl) ?_
    rw [List.forall₂_map_left_iff, List.forall₂_map_right_iff]
    exact hclusters.imp fun _ _ => ShowAll.cons ho
  · rw [List.forall₂_map_left_iff, List.forall₂_map_right_iff]
    exact hnodes.imp fun _ _ ⟨hid, hkeys⟩ => ⟨hid, hkeys.cons ho⟩

/-! ## Statements of a graph -/

theorem exists_nodeStatement? (h : p.InRange) (g : Graph) (grouping : Grouping) (hid : id < p.functions.length) :
    ∃ s, nodeStatement? p g grouping id = some s ∧ ∃ attributes, s = .node (nodeId id) attributes := by
  obtain ⟨k, hk⟩ := h.exists_package (List.getElem_mem hid)
  obtain ⟨tooltip, htooltip⟩ := h.exists_qualifiedName? hid
  have hlabel : ∃ label, label? p g grouping id = some label := by
    simp only [label?, List.getElem?_eq_getElem hid, hk, Option.bind_eq_bind, Option.bind_some]
    by_cases hshort : (grouping.byPackage || g.focus = some p.functions[id].package) = true
    · exact ⟨_, if_pos hshort⟩
    · exact ⟨_, if_neg hshort⟩
  obtain ⟨label, hlabel⟩ := hlabel
  exact ⟨_, by simp only [nodeStatement?, List.getElem?_eq_getElem hid, hlabel, htooltip]; rfl, _, rfl⟩

theorem exists_nodeStatements? (h : p.InRange) (g : Graph) (grouping : Grouping) {ids : List FunctionId}
    (hids : ∀ id ∈ ids, id < p.functions.length) :
    ∃ statements, ids.mapM (nodeStatement? p g grouping) = some statements ∧
      Draws p g statements [] (ids.map ([], ·)) := by
  obtain ⟨statements, hstatements, hall⟩ := exists_mapM fun id hid => exists_nodeStatement? h g grouping (hids id hid)
  refine ⟨statements, hstatements, ?_⟩
  clear hstatements hids
  induction hall with
  | nil => exact Draws.of_still (by simp)
  | @cons id _ _ _ hnode _ ih =>
    obtain ⟨attributes, rfl⟩ := hnode
    have hone : Draws p g [.node (nodeId id) attributes] [] [([], id)] :=
      ⟨[], [(nodeId id, [])], fun r => by simp [Reading.step, Reading.add], List.Forall₂.nil,
        List.Forall₂.cons ⟨rfl, rfl⟩ List.Forall₂.nil⟩
    exact hone.append ih

/-- clusters one after another, if what is inside each is drawn -/
theorem exists_clusters? {inside : Nat → List Item → Option (Nat × List Statement)}
    {inner : ClusterKey → List (List ClusterKey)} {order : ClusterKey → List Item}
    (hinside : ∀ count key, ∃ next own, inside count (itemsIn key items) = some (next, own) ∧
      Draws p g own (inner key) (order key)) (count : Nat) (keys : List ClusterKey) :
    ∃ next statements, clusters? p g inside items count keys = some (next, statements) ∧
      Draws p g statements (keys.flatMap fun key => [key] :: (inner key).map (key :: ·))
        (keys.flatMap fun key => (order key).map (under key)) := by
  induction keys generalizing count with
  | nil => exact ⟨count, [], rfl, Draws.of_still (by simp)⟩
  | cons key keys ih =>
    obtain ⟨next, inner, hinner, hdraws⟩ := hinside (count + 1) key
    obtain ⟨own, hown, hdraws⟩ := hdraws.exists_clusterStatements? (count + 1) key
    obtain ⟨last, rest, hrest, hdrawsRest⟩ := ih next
    exact ⟨last, own ++ rest, by simp [clusters?, hinner, hown, hrest], hdraws.append hdrawsRest⟩

/-- **The nodes of a graph are drawn as planned.** -/
theorem exists_tree? (h : p.InRange) (g : Graph) (grouping : Grouping) (depth count : Nat)
    (hids : ∀ i ∈ items, i.2 < p.functions.length) (hdepth : ∀ i ∈ items, i.1.length ≤ depth) :
    ∃ next statements, tree? p g grouping depth count items = some (next, statements) ∧
      Draws p g statements (nests depth items) (arranged depth items) := by
  induction depth generalizing count items with
  | zero =>
    have hids : ∀ id ∈ items.map Prod.snd, id < p.functions.length := List.forall_mem_map.2 hids
    obtain ⟨statements, hstatements, hdraws⟩ := exists_nodeStatements? h g grouping hids
    have hitems : (items.map Prod.snd).map (([], ·) : FunctionId → Item) = items := by
      rw [List.map_map]
      refine (List.map_congr_left fun i hi => ?_).trans (List.map_id items)
      exact Prod.ext (List.length_eq_zero_iff.1 (Nat.le_zero.1 (hdepth i hi))).symm rfl
    rw [hitems] at hdraws
    exact ⟨count, statements, by simp [tree?, hstatements], hdraws⟩
  | succ depth ih =>
    have hinside : ∀ count key, ∃ next own, tree? p g grouping depth count (itemsIn key items) = some (next, own) ∧
        Draws p g own (nests depth (itemsIn key items)) (arranged depth (itemsIn key items)) :=
      fun count key => ih count (fun i hi => hids (key :: i.1, i.2) (mem_itemsIn.1 hi)) (length_le_of_mem_itemsIn hdepth)
    obtain ⟨next, clusters, hclusters, hdrawsClusters⟩ := exists_clusters? hinside count (nextKeys items)
    have hids : ∀ id ∈ membersOf items, id < p.functions.length := by
      intro id hid
      obtain ⟨i, hi, heq⟩ := List.mem_filterMap.1 hid
      split_ifs at heq
      cases heq
      exact hids i hi
    obtain ⟨members, hmembers, hdrawsMembers⟩ := exists_nodeStatements? h g grouping hids
    refine ⟨next, clusters ++ members, by simp [tree?, hclusters, hmembers], ?_⟩
    have hdraws := hdrawsClusters.append hdrawsMembers
    rwa [List.append_nil] at hdraws

theorem exists_edgeStatement? (h : p.InRange) {e : Edge} (hcaller : e.caller < p.functions.length)
    (hcallee : e.callee < p.functions.length) :
    ∃ s, edgeStatement? p e = some s ∧ ∃ attributes, s = .edge (nodeId e.caller) (nodeId e.callee) attributes := by
  obtain ⟨caller, hcaller⟩ := h.exists_qualifiedName? hcaller
  obtain ⟨callee, hcallee⟩ := h.exists_qualifiedName? hcallee
  exact ⟨_, by simp only [edgeStatement?, hcaller, hcallee]; rfl, _, rfl⟩

/-- edges open nothing and declare nothing -/
theorem exists_edgeStatements? (h : p.InRange) (g : Graph) {edges : List Edge}
    (hends : ∀ e ∈ edges, e.caller < p.functions.length ∧ e.callee < p.functions.length) :
    ∃ statements, edges.mapM (edgeStatement? p) = some statements ∧ Draws p g statements [] [] := by
  obtain ⟨statements, hstatements, hall⟩ := exists_mapM fun e he => exists_edgeStatement? h (hends e he).1 (hends e he).2
  refine ⟨statements, hstatements, Draws.of_still fun s hs r => ?_⟩
  obtain ⟨e, -, attributes, rfl⟩ := exists_of_forall₂ hall hs
  rfl

section Reduced

variable {scope : Scope} {filter : Filter} {keys clusters : List ClusterKey}

/-- **A reduced graph has a drawing.** It draws the nests and the nodes of the plan, and nothing else. -/
theorem exists_statements? (h : p.InRange) (hs : scope.InRange p)
    (hfocus : ∀ package ∈ scope.focus?, package < p.packages.length) (hg : p.ReducesTo scope filter grouping g)
    (layout : Layout) :
    ∃ statements, statements? p g grouping layout = some statements ∧
      Draws p g statements (nests (depth g) (itemsOf g)) (arranged (depth g) (itemsOf g)) := by
  have hpath : ∃ focusPath, focusPath? p g = some focusPath := by
    simp only [focusPath?, hg.focus]
    cases hpackage : scope.focus? with
    | none => exact ⟨"", rfl⟩
    | some package => exact ⟨_, by simp only [List.getElem?_eq_getElem (hfocus package hpackage)]; rfl⟩
  obtain ⟨focusPath, hpath⟩ := hpath
  have hids : ∀ i ∈ itemsOf g, i.2 < p.functions.length := by
    intro i hi
    obtain ⟨n, hn, rfl⟩ := List.mem_map.1 hi
    exact hg.lt_of_hasNode h hs ⟨n, hn, rfl⟩
  obtain ⟨next, nodes, hnodes, hdrawsNodes⟩ := exists_tree? h g grouping (depth g) 0 hids length_le_depth
  have hends : ∀ e ∈ g.edges, e.caller < p.functions.length ∧ e.callee < p.functions.length := by
    intro e he
    obtain ⟨hcaller, hcallee⟩ := hg.hasNode_of_hasEdge ⟨e, he, rfl, rfl⟩
    exact ⟨hg.lt_of_hasNode h hs hcaller, hg.lt_of_hasNode h hs hcallee⟩
  obtain ⟨edges, hedges, hdrawsEdges⟩ := exists_edgeStatements? h g hends
  have hpreamble : Draws p g (preamble focusPath layout) [] [] := Draws.of_still (by simp [preamble, Reading.step])
  have hlast : Draws p g (if edges = [] then [] else .blank :: edges) [] [] := by
    split
    · exact Draws.of_still (by simp)
    · have hblank : Draws p g [.blank] [] [] := Draws.of_still (by simp [Reading.step])
      exact hblank.append hdrawsEdges
  refine ⟨preamble focusPath layout ++ nodes ++ (if edges = [] then [] else .blank :: edges), ?_, ?_⟩
  · unfold itemsOf at hnodes
    simp [statements?, hpath, hnodes, hedges]
  · simpa using (hpreamble.append hdrawsNodes).append hlast

/-! ## Nests of a key -/

/-- around the cluster of a package there is none, around that of a type there is the package if packages are drawn -/
theorem nest_of_getLast? (hclusters : p.clusterKeys? grouping id = some clusters) (hstart : keys <+: clusters)
    (hlast : keys.getLast? = some key) :
    if key.dimension = .package ∨ grouping.byPackage = false then keys = [key]
    else ∃ path, keys = [.package path, key] ∧ clusters = keys := by
  obtain ⟨packages, types, rfl, hpackages, htypes⟩ := Program.exists_append_of_clusterKeys? hclusters
  cases hby : grouping.byPackage with
  | false =>
    simp only [hby, Bool.false_eq_true, if_false] at hpackages
    subst hpackages
    rcases htypes with rfl | ⟨owner, name, rfl⟩
    · rw [List.append_nil, List.prefix_nil] at hstart
      subst hstart
      cases hlast
    · simp only [List.nil_append, List.prefix_cons_iff, List.prefix_nil] at hstart
      rcases hstart with rfl | ⟨_, rfl, rfl⟩
      · cases hlast
      · cases hlast
        simp
  | true =>
    simp only [hby, if_true] at hpackages
    obtain ⟨path, -, rfl⟩ := hpackages
    rcases htypes with rfl | ⟨owner, name, rfl⟩
    · simp only [List.append_nil, List.prefix_cons_iff, List.prefix_nil] at hstart
      rcases hstart with rfl | ⟨_, rfl, rfl⟩
      · cases hlast
      · cases hlast
        simp [ClusterKey.dimension]
    · simp only [List.singleton_append, List.prefix_cons_iff, List.prefix_nil] at hstart
      rcases hstart with rfl | ⟨_, rfl, rfl | ⟨_, rfl, rfl⟩⟩
      · cases hlast
      · cases hlast
        simp [ClusterKey.dimension]
      · cases hlast
        simp [ClusterKey.dimension]

end Reduced

/-! ## Clusters of a drawing -/

/-- how many clusters are opened for a key -/
def openings (p : Program) (g : Graph) (r : Reading) (key : ClusterKey) : Nat :=
  r.clusters.countP fun os => ∃ o ∈ os.getLast?, Shows p g key o

/-- the nodes that are declared anywhere inside a cluster of a key -/
def inside (p : Program) (g : Graph) (r : Reading) (key : ClusterKey) : List String :=
  (r.nodes.filter fun n => ∃ o ∈ n.2, Shows p g key o).map Prod.fst

/-- the clusters of a drawing are the clusters of its graph -/
structure SameClusters (p : Program) (g : Graph) (grouping : Grouping) (r : Reading) : Prop where
  /-- a cluster is opened for the keys of the graph only -/
  none_besides : ∀ os ∈ r.clusters, ∃ c ∈ g.clusters, ∃ o ∈ os.getLast?, Shows p g c.1 o
  /-- one for each package, and one for each type unless packages are drawn -/
  once : ∀ c ∈ g.clusters, c.1.dimension = .package ∨ grouping.byPackage = false → openings p g r c.1 = 1
  /-- one for a type in each package cluster that shares a member with it -/
  in_packages : ∀ path packed owner name methods, (.package path, packed) ∈ g.clusters →
    (.type owner name, methods) ∈ g.clusters →
      (r.clusters.countP fun os => ShowAll p g [.package path, .type owner name] os) =
        if ∃ id ∈ packed, id ∈ methods then 1 else 0
  /-- and nowhere else, if packages are drawn -/
  only_there : ∀ owner name methods, grouping.byPackage = true → (.type owner name, methods) ∈ g.clusters →
    openings p g r (.type owner name) =
      g.clusters.countP fun k => k.1.dimension = .package ∧ ∃ id ∈ k.2, id ∈ methods
  /-- the clusters of a key hold its members and no other node -/
  members : ∀ c ∈ g.clusters, List.Perm (inside p g r c.1) (c.2.map nodeId)

/-! ### Counting what is read -/

theorem countP_eq_of_forall₂ {α β : Type} {R : α → β → Prop} {P : α → Prop} {Q : β → Prop} [DecidablePred P]
    [DecidablePred Q] {as : List α} {bs : List β} (h : List.Forall₂ R as bs) (hPQ : ∀ a b, R a b → (P a ↔ Q b)) :
    as.countP P = bs.countP Q := by
  rw [List.countP_eq_length_filter, List.countP_eq_length_filter]
  exact (List.rel_filter (fun a b hab => by simpa using hPQ a b hab) h).length_eq

namespace Draws

theorem forall₂_clusters (h : Draws p g statements opened items) :
    List.Forall₂ (ShowAll p g) opened (read statements).clusters := by
  obtain ⟨clusters, nodes, hread, hclusters, -⟩ := h
  rwa [Dot.read, hread, Reading.empty_add]

theorem forall₂_nodes (h : Draws p g statements opened items) :
    List.Forall₂ (fun i n => n.1 = nodeId i.2 ∧ ShowAll p g i.1 n.2) items (read statements).nodes := by
  obtain ⟨clusters, nodes, hread, -, hnodes⟩ := h
  rwa [Dot.read, hread, Reading.empty_add]

theorem openings_eq (h : Draws p g statements opened items) (key : ClusterKey) :
    openings p g (read statements) key = opened.countP fun keys => keys.getLast? = some key :=
  (countP_eq_of_forall₂ h.forall₂_clusters fun _ _ hshow => hshow.exists_getLast?_iff.symm).symm

theorem countP_showAll_eq (h : Draws p g statements opened items) (keys : List ClusterKey) :
    ((read statements).clusters.countP fun os => ShowAll p g keys os) = opened.count keys := by
  have hcount : opened.count keys = opened.countP fun keys' => keys' = keys :=
    List.countP_congr fun keys' _ => by rw [beq_iff_eq, decide_eq_true_iff]
  rw [hcount]
  refine (countP_eq_of_forall₂ h.forall₂_clusters fun keys' os hshow => ⟨?_, fun hkeys => hshow.unique hkeys⟩).symm
  rintro rfl
  exact hshow

theorem inside_eq (h : Draws p g statements opened items) (key : ClusterKey) :
    inside p g (read statements) key = (items.filter fun i => key ∈ i.1).map fun i => nodeId i.2 := by
  have hfilter := List.rel_filter (p := fun i => key ∈ i.1) (q := fun n => ∃ o ∈ n.2, Shows p g key o)
    (fun i n hi => by simpa using hi.2.exists_mem_iff.symm) h.forall₂_nodes
  rw [inside, eq_comm, ← List.forall₂_eq_eq_eq, List.forall₂_map_left_iff, List.forall₂_map_right_iff]
  exact hfilter.imp fun i n hi => hi.1.symm

end Draws

/-! ### The clusters of a reduced graph -/

section Same

variable {scope : Scope} {filter : Filter} {n : Node}

/-- the nest that ends in a key of a node -/
theorem exists_nest (hn : n ∈ g.nodes) (hkey : key ∈ n.clusters) :
    ∃ keys ∈ nests (depth g) (itemsOf g), keys <+: n.clusters ∧ keys.getLast? = some key := by
  obtain ⟨before, after, hsplit⟩ := List.append_of_mem hkey
  have hstart : before ++ [key] <+: n.clusters := ⟨after, by rw [hsplit, List.append_assoc, List.singleton_append]⟩
  exact ⟨before ++ [key], mem_nests_itemsOf.2 ⟨by simp, n, hn, hstart⟩, hstart, by simp⟩

theorem exists_node_of_nest {keys : List ClusterKey} (hkeys : keys ∈ nests (depth g) (itemsOf g))
    (hlast : keys.getLast? = some key) : ∃ n ∈ g.nodes, keys <+: n.clusters ∧ key ∈ n.clusters := by
  obtain ⟨-, n, hn, hstart⟩ := mem_nests_itemsOf.1 hkeys
  exact ⟨n, hn, hstart, hstart.subset (List.mem_of_getLast? hlast)⟩

/-- a type is opened in the cluster of a package exactly if they share a member -/
theorem pair_mem_nests_iff (hg : p.ReducesTo scope filter grouping g) {path owner name : String} :
    [.package path, .type owner name] ∈ nests (depth g) (itemsOf g) ↔
      ∃ id ∈ g.members (.package path), id ∈ g.members (.type owner name) := by
  rw [mem_nests_itemsOf]
  constructor
  · rintro ⟨-, n, hn, hstart⟩
    exact ⟨n.id, Graph.mem_members.2 ⟨n, hn, hstart.subset (by simp), rfl⟩,
      Graph.mem_members.2 ⟨n, hn, hstart.subset (by simp), rfl⟩⟩
  · rintro ⟨id, hid, hid'⟩
    obtain ⟨n, hn, hpackage, hnid⟩ := Graph.mem_members.1 hid
    obtain ⟨n', hn', htype, rfl⟩ := Graph.mem_members.1 hid'
    -- the two nodes are of one function, so they have the same keys
    have hsame : n.clusters = n'.clusters :=
      Option.some.inj ((hg.clusters n hn).symm.trans (hnid ▸ hg.clusters n' hn'))
    have hboth := Program.eq_of_mem_clusterKeys? (hg.clusters n hn) hpackage (hsame ▸ htype)
    exact ⟨List.cons_ne_nil _ _, n, hn, hboth ▸ List.prefix_rfl⟩

/-- with packages drawn, a type is opened in the packages that share a member with it -/
theorem nests_of_type_perm (hg : p.ReducesTo scope filter grouping g) (hby : grouping.byPackage = true)
    {owner name : String} :
    List.Perm ((nests (depth g) (itemsOf g)).filter fun keys => keys.getLast? = some (.type owner name))
      ((g.clusters.filter fun k => k.1.dimension = .package ∧ ∃ id ∈ k.2, id ∈ g.members (.type owner name)).map
        fun k => [k.1, .type owner name]) := by
  have hnodup : (g.clusters.map fun k => [k.1, ClusterKey.type owner name]).Nodup := by
    have hpair : Function.Injective fun k : ClusterKey => [k, .type owner name] :=
      fun _ _ heq => (List.cons.inj heq).1
    simpa [Function.comp_def] using (Graph.nodup_clusters g).map hpair
  refine (List.perm_ext_iff_of_nodup ((nodup_nests length_le_depth).filter _)
    (hnodup.sublist (List.filter_sublist.map _))).2 fun keys => ?_
  simp only [List.mem_filter, List.mem_map, decide_eq_true_iff]
  constructor
  · rintro ⟨hkeys, hlast⟩
    obtain ⟨n, hn, hstart, -⟩ := exists_node_of_nest hkeys hlast
    have hnest := nest_of_getLast? (hg.clusters n hn) hstart hlast
    rw [if_neg (by simp [ClusterKey.dimension, hby])] at hnest
    obtain ⟨path, rfl, hclusters⟩ := hnest
    have hpackage : ClusterKey.package path ∈ n.clusters := by simp [hclusters]
    exact ⟨(.package path, g.members (.package path)), ⟨Graph.mem_clusters.2 ⟨⟨n, hn, hpackage⟩, rfl⟩, rfl,
      (pair_mem_nests_iff hg).1 hkeys⟩, rfl⟩
  · rintro ⟨⟨key, members⟩, ⟨hk, hdim, hshared⟩, rfl⟩
    obtain ⟨-, rfl⟩ := Graph.mem_clusters.1 hk
    cases key with
    | type _ _ => cases hdim
    | package path => exact ⟨(pair_mem_nests_iff hg).2 hshared, rfl⟩

theorem sameClusters (hg : p.ReducesTo scope filter grouping g)
    (hdraws : Draws p g statements (nests (depth g) (itemsOf g)) (arranged (depth g) (itemsOf g))) :
    SameClusters p g grouping (read statements) := by
  have hnodup : (nests (depth g) (itemsOf g)).Nodup := nodup_nests length_le_depth
  constructor
  case none_besides =>
    intro os hos
    obtain ⟨keys, hkeys, hshow⟩ := exists_of_forall₂ hdraws.forall₂_clusters hos
    obtain ⟨key, hlast⟩ : ∃ key, keys.getLast? = some key :=
      ⟨_, List.getLast?_eq_some_getLast (mem_nests_itemsOf.1 hkeys).1⟩
    obtain ⟨n, hn, -, hkey⟩ := exists_node_of_nest hkeys hlast
    exact ⟨(key, g.members key), Graph.mem_clusters.2 ⟨⟨n, hn, hkey⟩, rfl⟩, hshow.exists_getLast?_iff.2 hlast⟩
  case once =>
    rintro ⟨key, members⟩ hc hone
    obtain ⟨⟨n, hn, hkey⟩, -⟩ := Graph.mem_clusters.1 hc
    have hnest : ∀ keys ∈ nests (depth g) (itemsOf g), keys.getLast? = some key → keys = [key] := by
      intro keys hkeys hlast
      obtain ⟨n', hn', hstart, -⟩ := exists_node_of_nest hkeys hlast
      simpa only [if_pos hone] using nest_of_getLast? (hg.clusters n' hn') hstart hlast
    obtain ⟨keys, hkeys, -, hlast⟩ := exists_nest hn hkey
    have hmem : [key] ∈ nests (depth g) (itemsOf g) := hnest keys hkeys hlast ▸ hkeys
    rw [hdraws.openings_eq, ← List.count_eq_one_of_mem hnodup hmem]
    refine List.countP_congr fun keys hkeys => ?_
    rw [decide_eq_true_iff, beq_iff_eq]
    exact ⟨hnest keys hkeys, by rintro rfl; rfl⟩
  case in_packages =>
    intro path packed owner name methods hpackage htype
    obtain ⟨-, rfl⟩ := Graph.mem_clusters.1 hpackage
    obtain ⟨-, rfl⟩ := Graph.mem_clusters.1 htype
    simp only [hdraws.countP_showAll_eq, ← pair_mem_nests_iff hg, hnodup.count]
  case only_there =>
    intro owner name methods hby htype
    obtain ⟨-, rfl⟩ := Graph.mem_clusters.1 htype
    rw [hdraws.openings_eq, List.countP_eq_length_filter, (nests_of_type_perm hg hby).length_eq, List.length_map,
      ← List.countP_eq_length_filter]
  case members =>
    rintro ⟨key, members⟩ hc
    rw [hdraws.inside_eq, (Graph.mem_clusters.1 hc).2]
    refine (((arranged_perm _ _).filter _).map _).trans ?_
    simp [itemsOf, Graph.members, List.filter_map, Function.comp_def]

end Same

end CallAtlas.Drawing
