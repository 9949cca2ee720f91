/-
The shape of a drawing.

The statements before the edges form a `Forest`: settings, nodes and whole clusters one after another, with a node
somewhere in each cluster and with the clusters numbered in the order in which they are opened. `forest_of_tree?` shows
this for the nodes of a graph, by induction on the depth of the tree and on the keys of one level, and each fact about
the shape is an induction over the forest:
- `Forest.foldlM_levelAfter?`: what is opened is closed, and nothing else.
- `Forest.clusterNames_nodup`: no two clusters have one name. Keys that are alike once they are identifiers are told
  apart by their numbers, which an identifier keeps (`eq_of_identifier_eq`).
- `Forest.exists_add`: each cluster has a node in it.
- `Forest.isEdge_eq_false`: there is no edge among nodes and clusters.
With the plan of the nodes these make the result:
- `shaped_of_statements?`: the statements of a reduced graph declare its nodes once each inside the clusters of their
  keys, and after them its edges in their order.
-/
import CallAtlas.Proofs.DrawnClusters

namespace CallAtlas

/-! ## Names with numbers -/

namespace Dot

theorem isDigit_of_mem_toString {n : Nat} {c : Char} (hc : c ∈ (toString n).toList) : c.isDigit = true := by
  rw [Nat.toString_eq_repr, Nat.toList_repr] at hc
  exact Nat.isDigit_of_mem_toDigits (by decide) (by decide) hc

theorem toString_injective : Function.Injective (toString : Nat → String) := by
  intro m n h
  have hdigits := congrArg String.toList h
  rw [Nat.toString_eq_repr, Nat.toString_eq_repr, Nat.toList_repr, Nat.toList_repr] at hdigits
  rw [← Nat.ofDigitChars_toDigits (n := m) (b := 10) (by decide) (by decide), hdigits,
    Nat.ofDigitChars_toDigits (by decide) (by decide)]

theorem identifier_append (s t : String) : identifier (s ++ t) = identifier s ++ identifier t := by
  simp [identifier, String.toList_append, String.ofList_append]

/-- a number is an identifier as it is -/
theorem identifier_toString (n : Nat) : identifier (toString n) = toString n := by
  have hsame : (toString n).toList.map (fun c => if c.isAlphanum then c else '_') = (toString n).toList := by
    refine (List.map_congr_left fun c hc => ?_).trans (List.map_id _)
    simp [Char.isAlphanum, isDigit_of_mem_toString hc]
  rw [identifier, hsame, String.ofList_toList]

/-- **An identifier keeps its number**, whatever becomes of the text after it. -/
theorem eq_of_identifier_eq {m n : Nat} {s t : String}
    (h : identifier (toString m ++ "_" ++ s) = identifier (toString n ++ "_" ++ t)) : m = n := by
  have hunderscore : identifier "_" = "_" := by decide
  -- the number ends where the digits end, at the first underscore
  have hread : ∀ (k : Nat) (text : String),
      (identifier (toString k ++ "_" ++ text)).toList.takeWhile Char.isDigit = (toString k).toList := by
    intro k text
    have hchars : (identifier (toString k ++ "_" ++ text)).toList =
        (toString k).toList ++ '_' :: (identifier text).toList := by
      rw [identifier_append, identifier_append, identifier_toString, hunderscore, String.append_assoc,
        String.toList_append, String.toList_append]
      rfl
    rw [hchars, List.takeWhile_append_of_pos fun c => isDigit_of_mem_toString,
      List.takeWhile_cons_of_neg (by decide), List.append_nil]
  have hdigits : (toString m).toList = (toString n).toList := by rw [← hread m s, h, hread n t]
  exact toString_injective (String.toList_injective hdigits)

/-! ## Forests -/

/-- a statement that joins two nodes -/
def Statement.isEdge : Statement → Bool
  | .edge _ _ _ => true
  | _ => false

/-- a statement that says how to draw -/
def Statement.isSetting : Statement → Bool
  | .assign _ _ => true
  | .defaults _ _ => true
  | .blank => true
  | _ => false

/-- a node is declared somewhere -/
def HasNode (statements : List Statement) : Prop :=
  ∃ id attributes, .node id attributes ∈ statements

/-- settings, nodes and whole clusters, each with a node in it; `Forest m n` numbers its clusters from m + 1 to n -/
inductive Forest : Nat → Nat → List Statement → Prop
  | nil {n : Nat} : Forest n n []
  | setting {m n : Nat} {s : Statement} {rest : List Statement} (hs : s.isSetting = true) (hrest : Forest m n rest) :
    Forest m n (s :: rest)
  | node {m n : Nat} {id : String} {attributes : List Attribute} {rest : List Statement} (hrest : Forest m n rest) :
    Forest m n (.node id attributes :: rest)
  | cluster {m k n : Nat} {text : String} {attributes : List Attribute} {inside rest : List Statement}
    (hinside : Forest (m + 1) k inside) (hnode : HasNode inside) (hrest : Forest k n rest) :
    Forest m n (.openCluster (toString (m + 1) ++ "_" ++ text) attributes :: (inside ++ .closeCluster :: rest))

/-- the level of nesting after a statement; where nothing is open nothing can be closed -/
def levelAfter? : Nat → Statement → Option Nat
  | level, .openCluster _ _ => some (level + 1)
  | 0, .closeCluster => none
  | level + 1, .closeCluster => some level
  | level, _ => some level

/-- the names of the clusters, as they are written -/
def clusterNames (statements : List Statement) : List String :=
  statements.filterMap fun
    | .openCluster id _ => some (identifier id)
    | _ => none

/-- a statement that opens, closes and declares nothing -/
structure Statement.Still (s : Statement) : Prop where
  read : ∀ r : Reading, r.step s = r
  level : ∀ level, levelAfter? level s = some level
  names : ∀ rest, clusterNames (s :: rest) = clusterNames rest

/-- each cluster begins the clusters around some node -/
def Occupied (clusters : List (List Opening)) (nodes : List (String × List Opening)) : Prop :=
  ∀ os ∈ clusters, ∃ d ∈ nodes, os <+: d.2

theorem Statement.still_of_isSetting {s : Statement} (h : s.isSetting = true) : s.Still := by
  cases s <;> first | exact ⟨fun _ => rfl, fun _ => rfl, fun _ => rfl⟩ | cases h

theorem Statement.still_of_isEdge {s : Statement} (h : s.isEdge = true) : s.Still := by
  cases s <;> first | exact ⟨fun _ => rfl, fun _ => rfl, fun _ => rfl⟩ | cases h

theorem HasNode.append_left {statements statements' : List Statement} (h : HasNode statements) :
    HasNode (statements ++ statements') := by
  obtain ⟨id, attributes, hmem⟩ := h
  exact ⟨id, attributes, List.mem_append_left _ hmem⟩

theorem HasNode.append_right {statements statements' : List Statement} (h : HasNode statements') :
    HasNode (statements ++ statements') := by
  obtain ⟨id, attributes, hmem⟩ := h
  exact ⟨id, attributes, List.mem_append_right _ hmem⟩

theorem Occupied.append {clusters clusters' : List (List Opening)} {nodes nodes' : List (String × List Opening)}
    (h : Occupied clusters nodes) (h' : Occupied clusters' nodes') :
    Occupied (clusters ++ clusters') (nodes ++ nodes') := by
  refine List.forall_mem_append.2 ⟨fun os hos => ?_, fun os hos => ?_⟩
  · obtain ⟨d, hd, hstart⟩ := h os hos
    exact ⟨d, List.mem_append_left _ hd, hstart⟩
  · obtain ⟨d, hd, hstart⟩ := h' os hos
    exact ⟨d, List.mem_append_right _ hd, hstart⟩

/-- one cluster more around all, if there is a node -/
theorem Occupied.under {clusters : List (List Opening)} {nodes : List (String × List Opening)}
    (h : Occupied clusters nodes) (hne : nodes ≠ []) (o : Opening) :
    Occupied ([o] :: clusters.map (o :: ·)) (nodes.map fun d => (d.1, o :: d.2)) := by
  refine List.forall_mem_cons.2 ⟨?_, List.forall_mem_map.2 fun os hos => ?_⟩
  · obtain ⟨d, hd⟩ := List.exists_mem_of_ne_nil nodes hne
    exact ⟨(d.1, o :: d.2), List.mem_map_of_mem hd, d.2, rfl⟩
  · obtain ⟨d, hd, hstart⟩ := h os hos
    exact ⟨(d.1, o :: d.2), List.mem_map_of_mem hd, (List.prefix_cons_inj o).2 hstart⟩

theorem clusterNames_append (statements statements' : List Statement) :
    clusterNames (statements ++ statements') = clusterNames statements ++ clusterNames statements' :=
  List.filterMap_append

namespace Forest

variable {m k n : Nat} {statements statements' : List Statement}

theorem of_settings (h : ∀ s ∈ statements, s.isSetting = true) : Forest n n statements := by
  induction statements with
  | nil => exact .nil
  | cons s rest ih =>
    obtain ⟨hs, hrest⟩ := List.forall_mem_cons.1 h
    exact .setting hs (ih hrest)

theorem append (h : Forest m k statements) (h' : Forest k n statements') : Forest m n (statements ++ statements') := by
  induction h with
  | nil => exact h'
  | setting hs _ ih => exact .setting hs (ih h')
  | node _ ih => exact .node (ih h')
  | cluster hinside hnode _ _ ih =>
    rw [List.cons_append, List.append_assoc, List.cons_append]
    exact .cluster hinside hnode (ih h')

/-- **What is opened is closed.** -/
theorem foldlM_levelAfter? (h : Forest m n statements) (level : Nat) :
    statements.foldlM levelAfter? level = some level := by
  induction h generalizing level with
  | nil => rfl
  | setting hs _ ih => simpa [(Statement.still_of_isSetting hs).level] using ih level
  | node _ ih => simpa [levelAfter?] using ih level
  | cluster _ _ _ ihInside ihRest => simp [List.foldlM_append, levelAfter?, ihInside, ihRest]

theorem isEdge_eq_false (h : Forest m n statements) : ∀ s ∈ statements, s.isEdge = false := by
  induction h with
  | nil => simp
  | @setting _ _ s _ hs _ ih =>
    refine List.forall_mem_cons.2 ⟨?_, ih⟩
    cases s <;> first | rfl | cases hs
  | node _ ih => exact List.forall_mem_cons.2 ⟨rfl, ih⟩
  | cluster _ _ _ ihInside ihRest =>
    exact List.forall_mem_cons.2 ⟨rfl, List.forall_mem_append.2 ⟨ihInside, List.forall_mem_cons.2 ⟨rfl, ihRest⟩⟩⟩

/-- clusters are numbered in the order in which they are opened -/
theorem exists_clusterNames_eq (h : Forest m n statements) :
    ∃ texts : List String, n = m + texts.length ∧
      clusterNames statements = (texts.zipIdx (m + 1)).map fun t => identifier (toString t.2 ++ "_" ++ t.1) := by
  induction h with
  | nil => exact ⟨[], rfl, rfl⟩
  | setting hs _ ih => rwa [(Statement.still_of_isSetting hs).names]
  | node _ ih => exact ih
  | @cluster m k n text attributes inside rest _ _ _ ihInside ihRest =>
    obtain ⟨texts, rfl, hinside⟩ := ihInside
    obtain ⟨texts', rfl, hrest⟩ := ihRest
    refine ⟨text :: (texts ++ texts'), by simp only [List.length_cons, List.length_append]; omega, ?_⟩
    have hnumber : m + 1 + texts.length + 1 = m + 1 + 1 + texts.length := by omega
    have hnames : clusterNames
        (.openCluster (toString (m + 1) ++ "_" ++ text) attributes :: (inside ++ .closeCluster :: rest)) =
          identifier (toString (m + 1) ++ "_" ++ text) :: (clusterNames inside ++ clusterNames rest) := by
      simp [clusterNames]
    rw [hnames, hinside, hrest, List.zipIdx_cons, List.zipIdx_append, List.map_cons, List.map_append, hnumber]

/-- **Clusters have different names.** -/
theorem clusterNames_nodup (h : Forest m n statements) : (clusterNames statements).Nodup := by
  obtain ⟨texts, -, hnames⟩ := h.exists_clusterNames_eq
  have hnumbers : ((texts.zipIdx (m + 1)).map Prod.snd).Nodup := by
    rw [List.zipIdx_map_snd]
    exact List.nodup_range'
  rw [hnames]
  refine List.pairwise_map.2 ((List.pairwise_map.1 hnumbers).imp fun hne hsame => ?_)
  exact hne (eq_of_identifier_eq hsame)

/-- **Each cluster has a node in it.** A reading goes on with clusters and nodes inside them. -/
theorem exists_add (h : Forest m n statements) :
    ∃ clusters nodes, (∀ r : Reading, statements.foldl Reading.step r = r.add clusters nodes) ∧
      Occupied clusters nodes ∧ (HasNode statements → nodes ≠ []) := by
  induction h with
  | nil => exact ⟨[], [], fun r => r.add_nil.symm, by simp [Occupied], by simp [HasNode]⟩
  | @setting _ _ s rest hs _ ih =>
    obtain ⟨clusters, nodes, hread, hoccupied, hnode⟩ := ih
    have hstill : s.Still := Statement.still_of_isSetting hs
    refine ⟨clusters, nodes, fun r => by rw [List.foldl_cons, hstill.read, hread], hoccupied, ?_⟩
    rintro ⟨id, attributes, hmem⟩
    rcases List.mem_cons.1 hmem with rfl | hmem
    · cases hs
    · exact hnode ⟨id, attributes, hmem⟩
  | @node _ _ id attributes rest _ ih =>
    obtain ⟨clusters, nodes, hread, hoccupied, -⟩ := ih
    refine ⟨clusters, (id, []) :: nodes, fun r => ?_, fun os hos => ?_, by simp⟩
    · rw [List.foldl_cons, hread]
      simp [Reading.step, Reading.add]
    · obtain ⟨d, hd, hstart⟩ := hoccupied os hos
      exact ⟨d, List.mem_cons_of_mem _ hd, hstart⟩
  | @cluster m k n text attributes inside rest _ hnode _ ihInside ihRest =>
    obtain ⟨clusters, nodes, hread, hoccupied, hsome⟩ := ihInside
    obtain ⟨clusters', nodes', hread', hoccupied', -⟩ := ihRest
    let o : Opening := (toString (m + 1) ++ "_" ++ text, attributes)
    have hne : nodes ≠ [] := hsome hnode
    refine ⟨_, _, fun r => ?_, (hoccupied.under hne o).append hoccupied', by simp [hne]⟩
    rw [List.foldl_cons, List.foldl_append, hread, List.foldl_cons, hread', ← Reading.add_add]
    exact congrArg (fun q : Reading => q.add clusters' nodes') (r.step_close_add_step_open o clusters nodes)

end Forest

end Dot

namespace Drawing

open Dot

variable {p : Program} {g : Graph} {grouping : Grouping} {items : List Item} {statements : List Statement}

/-! ## The forest of a graph -/

theorem exists_of_nodeStatement? {id : FunctionId} {s : Statement} (h : nodeStatement? p g grouping id = some s) :
    ∃ attributes, s = .node (nodeId id) attributes := by
  simp only [nodeStatement?, Option.bind_eq_bind, Option.bind_eq_some_iff, Option.pure_def, Option.some.injEq] at h
  obtain ⟨f, -, label, -, tooltip, -, rfl⟩ := h
  exact ⟨_, rfl⟩

theorem exists_of_edgeStatement? {e : Edge} {s : Statement} (h : edgeStatement? p e = some s) :
    ∃ attributes, s = .edge (nodeId e.caller) (nodeId e.callee) attributes := by
  simp only [edgeStatement?, Option.bind_eq_bind, Option.bind_eq_some_iff, Option.pure_def, Option.some.injEq] at h
  obtain ⟨caller, -, callee, -, rfl⟩ := h
  exact ⟨_, rfl⟩

/-- a cluster with its inside, and then the clusters of the other keys -/
theorem exists_of_clusters?_cons {inside : Nat → List Item → Option (Nat × List Statement)} {key : ClusterKey}
    {keys : List ClusterKey} {count next : Nat}
    (h : clusters? p g inside items count (key :: keys) = some (next, statements)) :
    ∃ middle own attributes rest, inside (count + 1) (itemsIn key items) = some (middle, own) ∧
      clusterAttributes? p g key = some attributes ∧ clusters? p g inside items middle keys = some (next, rest) ∧
      statements = .openCluster (toString (count + 1) ++ "_" ++ key.text) attributes ::
        (own ++ .closeCluster :: rest) := by
  simp only [clusters?, clusterStatements?, Option.bind_eq_bind, Option.bind_eq_some_iff, Option.pure_def,
    Option.some.injEq, Prod.mk.injEq] at h
  obtain ⟨⟨middle, own⟩, hown, _, ⟨attributes, hattributes, rfl⟩, ⟨last, rest⟩, hrest, rfl, rfl⟩ := h
  exact ⟨middle, own, attributes, rest, hown, hattributes, hrest, by simp⟩

theorem exists_of_tree?_zero {count next : Nat} (h : tree? p g grouping 0 count items = some (next, statements)) :
    (items.map Prod.snd).mapM (nodeStatement? p g grouping) = some statements ∧ next = count := by
  simp only [tree?, Option.bind_eq_bind, Option.bind_eq_some_iff, Option.pure_def, Option.some.injEq,
    Prod.mk.injEq] at h
  obtain ⟨nodes, hnodes, rfl, rfl⟩ := h
  exact ⟨hnodes, rfl⟩

/-- clusters and then single nodes -/
theorem exists_of_tree?_succ {depth count next : Nat}
    (h : tree? p g grouping (depth + 1) count items = some (next, statements)) :
    ∃ clusters members, clusters? p g (tree? p g grouping depth) items count (nextKeys items) = some (next, clusters) ∧
      (membersOf items).mapM (nodeStatement? p g grouping) = some members ∧ statements = clusters ++ members := by
  simp only [tree?, Option.bind_eq_bind, Option.bind_eq_some_iff, Option.pure_def, Option.some.injEq,
    Prod.mk.injEq] at h
  obtain ⟨⟨middle, clusters⟩, hclusters, members, hmembers, rfl, rfl⟩ := h
  exact ⟨clusters, members, hclusters, hmembers, rfl⟩

/-- nodes without clusters -/
theorem forest_of_nodeStatements? {ids : List FunctionId} (h : ids.mapM (nodeStatement? p g grouping) = some statements)
    (count : Nat) : Forest count count statements ∧ (ids ≠ [] → HasNode statements) := by
  have hall := forall₂_of_mapM h
  clear h
  induction hall with
  | nil => exact ⟨.nil, fun hne => absurd rfl hne⟩
  | cons hnode _ ih =>
    obtain ⟨attributes, rfl⟩ := exists_of_nodeStatement? hnode
    exact ⟨.node ih.1, fun _ => ⟨_, _, List.mem_cons_self⟩⟩

/-- the clusters of one level, if what is inside each is a forest -/
theorem forest_of_clusters? {inside : Nat → List Item → Option (Nat × List Statement)} {keys : List ClusterKey}
    (hinside : ∀ key ∈ keys, ∀ count next own, inside count (itemsIn key items) = some (next, own) →
      Forest count next own ∧ HasNode own) {count next : Nat}
    (h : clusters? p g inside items count keys = some (next, statements)) :
    Forest count next statements ∧ (keys ≠ [] → HasNode statements) := by
  induction keys generalizing count statements with
  | nil =>
    cases h
    exact ⟨.nil, fun hne => absurd rfl hne⟩
  | cons key keys ih =>
    obtain ⟨hkey, hkeys⟩ := List.forall_mem_cons.1 hinside
    obtain ⟨middle, own, attributes, rest, hown, -, hrest, rfl⟩ := exists_of_clusters?_cons h
    obtain ⟨hforest, id, attributes', hmem⟩ := hkey _ _ _ hown
    exact ⟨.cluster hforest ⟨id, attributes', hmem⟩ (ih hkeys hrest).1, fun _ => ⟨id, attributes', by simp [hmem]⟩⟩

/-- **The nodes of a graph make a forest**, with a node in it if there is one. -/
theorem forest_of_tree? {depth count next : Nat} (h : tree? p g grouping depth count items = some (next, statements)) :
    Forest count next statements ∧ (items ≠ [] → HasNode statements) := by
  induction depth generalizing count next items statements with
  | zero =>
    obtain ⟨hnodes, rfl⟩ := exists_of_tree?_zero h
    obtain ⟨hforest, hnode⟩ := forest_of_nodeStatements? hnodes next
    exact ⟨hforest, fun hne => hnode (by simpa using hne)⟩
  | succ depth ih =>
    obtain ⟨clusters, members, hclusters, hmembers, rfl⟩ := exists_of_tree?_succ h
    have hinside : ∀ key ∈ nextKeys items, ∀ count next own,
        tree? p g grouping depth count (itemsIn key items) = some (next, own) → Forest count next own ∧ HasNode own := by
      intro key hkey count next own hown
      obtain ⟨i, hi⟩ := mem_nextKeys.1 hkey
      exact (ih hown).imp_right fun hnode => hnode (List.ne_nil_of_mem hi)
    obtain ⟨hforest, hnode⟩ := forest_of_clusters? hinside hclusters
    obtain ⟨hforest', hnode'⟩ := forest_of_nodeStatements? hmembers next
    refine ⟨hforest.append hforest', fun hne => ?_⟩
    -- the first item stands in a cluster of this level or in none
    obtain ⟨⟨keys, id⟩, hi⟩ := List.exists_mem_of_ne_nil items hne
    cases keys with
    | nil =>
      have hmember : id ∈ membersOf items := List.mem_filterMap.2 ⟨([], id), hi, if_pos rfl⟩
      exact (hnode' (List.ne_nil_of_mem hmember)).append_right
    | cons key keys =>
      have hkey : key ∈ nextKeys items := mem_nextKeys.2 ⟨(keys, id), mem_itemsIn.2 hi⟩
      exact (hnode (List.ne_nil_of_mem hkey)).append_left

/-- a drawing is a forest and then the edges of the graph -/
theorem exists_forest_of_statements? {layout : Layout} (h : statements? p g grouping layout = some statements) :
    ∃ front edges last, statements = front ++ edges ∧ Forest 0 last front ∧
      List.Forall₂ (fun e s => edgeStatement? p e = some s) g.edges edges := by
  simp only [statements?, Option.bind_eq_bind, Option.bind_eq_some_iff, Option.pure_def, Option.some.injEq] at h
  obtain ⟨focusPath, -, ⟨last, nodes⟩, hnodes, edges, hedges, rfl⟩ := h
  have hpreamble : Forest 0 0 (preamble focusPath layout) := .of_settings (by simp [preamble, Statement.isSetting])
  have hfront : Forest 0 last (preamble focusPath layout ++ nodes) := hpreamble.append (forest_of_tree? hnodes).1
  have hall := forall₂_of_mapM hedges
  by_cases hnone : edges = []
  · exact ⟨_, edges, last, by simp [hnone], hfront, hall⟩
  · have hblank : Forest last last [.blank] := .of_settings (by simp [Statement.isSetting])
    exact ⟨_, edges, last, by simp [hnone], hfront.append hblank, hall⟩

/-! ## The shape -/

/-- edges are drawn as edges -/
theorem isEdge_of_edgeStatements? {es : List Edge}
    (h : List.Forall₂ (fun e s => edgeStatement? p e = some s) es statements) : ∀ s ∈ statements, s.isEdge = true := by
  intro s hs
  obtain ⟨e, -, he⟩ := exists_of_forall₂ h hs
  obtain ⟨attributes, rfl⟩ := exists_of_edgeStatement? he
  rfl

/-- edges change nothing in a reading, in the level of nesting and in the names -/
structure OnlyEdges (edges : List Statement) : Prop where
  read : ∀ r : Reading, edges.foldl Reading.step r = r
  level : ∀ level, edges.foldlM levelAfter? level = some level
  names : clusterNames edges = []

theorem onlyEdges (h : ∀ s ∈ statements, s.isEdge = true) : OnlyEdges statements := by
  induction statements with
  | nil => exact ⟨fun _ => rfl, fun _ => rfl, rfl⟩
  | cons s rest ih =>
    obtain ⟨hs, hrest⟩ := List.forall_mem_cons.1 h
    obtain ⟨hread, hlevel, hnames⟩ := ih hrest
    have hstill : s.Still := Statement.still_of_isEdge hs
    constructor
    case read => exact fun r => by rw [List.foldl_cons, hstill.read, hread]
    case level => exact fun level => by rw [List.foldlM_cons, hstill.level, Option.bind_eq_bind, Option.bind_some, hlevel]
    case names => rw [hstill.names, hnames]

/-- **What a drawing opens it closes.** -/
theorem nested_of_statements? {layout : Layout} (h : statements? p g grouping layout = some statements) :
    statements.foldlM levelAfter? 0 = some 0 := by
  obtain ⟨front, edges, last, rfl, hforest, hall⟩ := exists_forest_of_statements? h
  rw [List.foldlM_append, hforest.foldlM_levelAfter?, Option.bind_eq_bind, Option.bind_some,
    (onlyEdges (isEdge_of_edgeStatements? hall)).level]

/-- a drawing has the shape of its graph -/
structure Shaped (p : Program) (g : Graph) (statements : List Statement) : Prop where
  /-- the nodes of the graph are declared, once each, and no other node is -/
  nodes : ((read statements).nodes.map Prod.fst).Perm (g.nodes.map fun n => nodeId n.id)
  nodup : ((read statements).nodes.map Prod.fst).Nodup
  /-- the clusters around a node are those of its keys, outermost first -/
  around : ∀ n ∈ g.nodes, ∃ os, (nodeId n.id, os) ∈ (read statements).nodes ∧ ShowAll p g n.clusters os
  /-- nodes whose keys begin alike share one cluster for the beginning, and no further cluster is opened -/
  shared : ∀ keys, ((read statements).clusters.countP fun os => ShowAll p g keys os) =
    if keys ≠ [] ∧ ∃ n ∈ g.nodes, keys <+: n.clusters then 1 else 0
  /-- what is opened is closed -/
  nested : statements.foldlM levelAfter? 0 = some 0
  /-- each cluster has a node in it -/
  occupied : Occupied (read statements).clusters (read statements).nodes
  /-- each cluster has a name of its own -/
  names : (clusterNames statements).Nodup
  /-- after all else there is a statement for each edge, in their order -/
  edges : ∃ front edges, statements = front ++ edges ∧ (∀ s ∈ front, s.isEdge = false) ∧
    List.Forall₂ (fun e s => edgeStatement? p e = some s ∧
      ∃ attributes, s = .edge (nodeId e.caller) (nodeId e.callee) attributes) g.edges edges
  /-- between nodes that are declared -/
  ends : ∀ e ∈ g.edges, nodeId e.caller ∈ (read statements).nodes.map Prod.fst ∧
    nodeId e.callee ∈ (read statements).nodes.map Prod.fst

theorem nodeId_injective : Function.Injective nodeId := by
  intro f f' h
  rw [nodeId, nodeId, String.append_right_inj] at h
  exact toString_injective h

section Reduced

variable {scope : Scope} {filter : Filter}

theorem nodes_perm (hdraws : Draws p g statements (nests (depth g) (itemsOf g)) (arranged (depth g) (itemsOf g))) :
    ((read statements).nodes.map Prod.fst).Perm (g.nodes.map fun n => nodeId n.id) := by
  have hsame : (arranged (depth g) (itemsOf g)).map (fun i => nodeId i.2) = (read statements).nodes.map Prod.fst := by
    rw [← List.forall₂_eq_eq_eq, List.forall₂_map_left_iff, List.forall₂_map_right_iff]
    exact hdraws.forall₂_nodes.imp fun _ _ hi => hi.1.symm
  rw [← hsame]
  refine ((arranged_perm _ _).map _).trans ?_
  simp [itemsOf, Function.comp_def]

theorem shaped_of_statements? (hg : p.ReducesTo scope filter grouping g) {layout : Layout}
    (hstatements : statements? p g grouping layout = some statements)
    (hdraws : Draws p g statements (nests (depth g) (itemsOf g)) (arranged (depth g) (itemsOf g))) :
    Shaped p g statements := by
  obtain ⟨front, edges, last, hsplit, hforest, hall⟩ := exists_forest_of_statements? hstatements
  have honly : OnlyEdges edges := onlyEdges (isEdge_of_edgeStatements? hall)
  have hread : read statements = read front := by
    rw [Dot.read, hsplit, List.foldl_append, honly.read]
    rfl
  have hdeclared : ∀ f, g.HasNode f → nodeId f ∈ (read statements).nodes.map Prod.fst := by
    rintro f ⟨n, hn, rfl⟩
    exact (nodes_perm hdraws).mem_iff.2 (List.mem_map_of_mem hn)
  constructor
  case nodes => exact nodes_perm hdraws
  case nodup =>
    have hids : (g.nodes.map Node.id).Nodup := hg.sorted_ids.nodup Ordered.isOrder_nat
    rw [(nodes_perm hdraws).nodup_iff]
    simpa [Function.comp_def] using hids.map nodeId_injective
  case around =>
    intro n hn
    have hitem : (n.clusters, n.id) ∈ arranged (depth g) (itemsOf g) :=
      (arranged_perm _ _).mem_iff.2 (List.mem_map_of_mem hn)
    obtain ⟨⟨id, os⟩, hd, rfl, hshow⟩ := exists_of_forall₂ hdraws.forall₂_nodes.flip hitem
    exact ⟨os, hd, hshow⟩
  case shared =>
    intro keys
    rw [hdraws.countP_showAll_eq, (nodup_nests length_le_depth).count]
    simp only [mem_nests_itemsOf]
  case nested => exact nested_of_statements? hstatements
  case occupied =>
    obtain ⟨clusters, nodes, hadd, hoccupied, -⟩ := hforest.exists_add
    rw [hread, Dot.read, hadd, Reading.empty_add]
    exact hoccupied
  case names =>
    rw [hsplit, clusterNames_append, honly.names, List.append_nil]
    exact hforest.clusterNames_nodup
  case edges =>
    exact ⟨front, edges, hsplit, hforest.isEdge_eq_false, hall.imp fun _ _ he => ⟨he, exists_of_edgeStatement? he⟩⟩
  case ends =>
    intro e he
    exact (hg.hasNode_of_hasEdge ⟨e, he, rfl, rfl⟩).imp (hdeclared _) (hdeclared _)

end Reduced

end Drawing

end CallAtlas
