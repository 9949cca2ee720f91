/-
Drawings of reduced graphs, as their readers find them.

The statements of a graph draw its clusters (`sameClusters`) and have its shape (`shaped_of_statements?`), and a reader
of a text finds statements again if they can be written (`readText?_document`). This puts the three together, so that
the results are about the text of a drawing.
- `writable_of_statements?`: the statements of a graph can be written, whatever its packages and functions are called.
- `exists_drawing`: in a program whose ids exist a reduced graph has a drawing, and its statements are read back.
- `drawn_clusters`: it opens clusters for the keys of the graph and for no others, and holds in the clusters of a key
  exactly its members.
- `type_drawn_twice`: so the methods of a type can be torn apart by the package clusters around them.
- `shaped`: it declares its nodes once each inside the clusters of their keys, and after them its edges in their order.
-/
import CallAtlas.Proofs.DrawingText

namespace CallAtlas.Drawing

open Dot

variable {p : Program} {g : Graph} {grouping : Grouping} {items : List Item} {statements : List Statement}

/-! ## Statements that can be written -/

theorem isWord_nodeId (id : FunctionId) : IsWord (nodeId id) := by
  refine ⟨by simp [nodeId], List.all_eq_true.2 fun c hc => ?_⟩
  rw [nodeId, String.toList_append, List.mem_append] at hc
  rcases hc with hc | hc
  · obtain rfl : c = 'n' := by simpa using hc
    decide
  · simp [Char.isAlphanum, isDigit_of_mem_toString hc]

theorem nodeId_not_mem_kinds (id : FunctionId) : nodeId id ∉ kinds := by
  intro hmem
  have hletter : ∀ kind ∈ kinds, kind.toList.tail.all Char.isDigit = false := by decide
  have htail : (nodeId id).toList.tail = (toString id).toList := by simp [nodeId]
  have hdigits : (nodeId id).toList.tail.all Char.isDigit = true :=
    List.all_eq_true.2 fun c hc => isDigit_of_mem_toString (htail ▸ hc)
  exact absurd hdigits (by simp [hletter _ hmem])

theorem writable_of_nodeStatement? {id : FunctionId} {s : Statement} (h : nodeStatement? p g grouping id = some s) :
    s.Writable := by
  simp only [nodeStatement?, Option.bind_eq_bind, Option.bind_eq_some_iff, Option.pure_def, Option.some.injEq] at h
  obtain ⟨f, -, label, -, tooltip, -, rfl⟩ := h
  refine ⟨isWord_nodeId id, nodeId_not_mem_kinds id, fun a ha => ?_⟩
  have hkey : a.1 ∈ ["label", "tooltip", "fillcolor", "style"] := by
    split_ifs at ha <;> grind
  have hwords : ∀ key ∈ ["label", "tooltip", "fillcolor", "style"], IsWord key := by decide
  exact hwords a.1 hkey

theorem writable_of_edgeStatement? {e : Edge} {s : Statement} (h : edgeStatement? p e = some s) : s.Writable := by
  simp only [edgeStatement?, Option.bind_eq_bind, Option.bind_eq_some_iff, Option.pure_def, Option.some.injEq] at h
  obtain ⟨caller, -, callee, -, rfl⟩ := h
  refine ⟨isWord_nodeId e.caller, isWord_nodeId e.callee, fun a ha => ?_⟩
  have hkey : a.1 ∈ ["style", "arrowhead", "tooltip"] := by
    split_ifs at ha <;> grind
  have hwords : ∀ key ∈ ["style", "arrowhead", "tooltip"], IsWord key := by decide
  exact hwords a.1 hkey

theorem isWord_of_clusterAttributes? {key : ClusterKey} {attributes : List Attribute}
    (h : clusterAttributes? p g key = some attributes) : ∀ a ∈ attributes, IsWord a.1 := by
  have hwords : ∀ key ∈ ["label", "tooltip", "style", "fillcolor", "penwidth", "fontsize"], IsWord key := by decide
  have hkeys : attributes.map Prod.fst = ["label", "tooltip", "style", "fillcolor", "penwidth", "fontsize"] := by
    cases key with
    | package path =>
      obtain ⟨label, color, hpackage⟩ := clusterAttributes?_package p g path
      cases hpackage.symm.trans h
      rfl
    | type owner name =>
      cases h
      rfl
  intro a ha
  exact hwords a.1 (hkeys ▸ List.mem_map_of_mem ha)

/-- statements of nodes -/
theorem writable_of_nodeStatements? {ids : List FunctionId}
    (h : ids.mapM (nodeStatement? p g grouping) = some statements) : ∀ s ∈ statements, s.Writable := by
  intro s hs
  obtain ⟨id, -, hid⟩ := exists_of_forall₂ (forall₂_of_mapM h) hs
  exact writable_of_nodeStatement? hid

/-- the clusters of one level, if what is inside each can be written -/
theorem writable_of_clusters? {inside : Nat → List Item → Option (Nat × List Statement)} {keys : List ClusterKey}
    (hinside : ∀ key count next own, inside count (itemsIn key items) = some (next, own) → ∀ s ∈ own, s.Writable)
    {count next : Nat} (h : clusters? p g inside items count keys = some (next, statements)) :
    ∀ s ∈ statements, s.Writable := by
  induction keys generalizing count statements with
  | nil =>
    cases h
    exact List.forall_mem_nil _
  | cons key keys ih =>
    obtain ⟨middle, own, attributes, rest, hown, hattributes, hrest, rfl⟩ := exists_of_clusters?_cons h
    have hopen : (Statement.openCluster (toString (count + 1) ++ "_" ++ key.text) attributes).Writable :=
      isWord_of_clusterAttributes? hattributes
    have hrest : ∀ s ∈ Statement.closeCluster :: rest, s.Writable := List.forall_mem_cons.2 ⟨trivial, ih hrest⟩
    exact List.forall_mem_cons.2 ⟨hopen, List.forall_mem_append.2 ⟨hinside _ _ _ _ hown, hrest⟩⟩

theorem writable_of_tree? {depth count next : Nat}
    (h : tree? p g grouping depth count items = some (next, statements)) : ∀ s ∈ statements, s.Writable := by
  induction depth generalizing count next items statements with
  | zero => exact writable_of_nodeStatements? (exists_of_tree?_zero h).1
  | succ depth ih =>
    obtain ⟨clusters, members, hclusters, hmembers, rfl⟩ := exists_of_tree?_succ h
    exact List.forall_mem_append.2
      ⟨writable_of_clusters? (fun _ _ _ _ hown => ih hown) hclusters, writable_of_nodeStatements? hmembers⟩

/-- **The statements of a graph can be written**, whatever its packages and functions are called. -/
theorem writable_of_statements? {layout : Layout} (h : statements? p g grouping layout = some statements) :
    ∀ s ∈ statements, s.Writable := by
  simp only [statements?, Option.bind_eq_bind, Option.bind_eq_some_iff, Option.pure_def, Option.some.injEq] at h
  obtain ⟨focusPath, -, ⟨last, nodes⟩, hnodes, edges, hedges, rfl⟩ := h
  have hpreamble : ∀ s ∈ preamble focusPath layout, s.Writable := by
    simp only [preamble, List.forall_mem_cons, List.not_mem_nil, false_imp_iff, implies_true, Statement.Writable]
    decide
  have hall : ∀ s ∈ edges, s.Writable := by
    intro s hs
    obtain ⟨e, -, he⟩ := exists_of_forall₂ (forall₂_of_mapM hedges) hs
    exact writable_of_edgeStatement? he
  refine List.forall_mem_append.2 ⟨List.forall_mem_append.2 ⟨hpreamble, writable_of_tree? hnodes⟩, ?_⟩
  split_ifs
  · exact List.forall_mem_nil _
  · exact List.forall_mem_cons.2 ⟨trivial, hall⟩

/-! ## A drawing and its reader -/

/-- **The statements of a graph are read back** from their text: no name of a package or a function gets out of its
value. -/
theorem readText?_of_statements? {layout : Layout} (h : statements? p g grouping layout = some statements) :
    readText? (document name statements) = some (name, placed [] (statements.flatMap Statement.spelled)) := by
  have hname : identifier name = name := by decide
  rw [readText?_document name statements (writable_of_statements? h) (nested_of_statements? h), hname]

/-- a reduced graph has a drawing: a text that is read back as statements, which draw the plan of the nodes -/
theorem exists_drawing {scope : Scope} {filter : Filter} (h : p.InRange) (hs : scope.InRange p)
    (hfocus : ∀ package ∈ scope.focus?, package < p.packages.length) (hg : p.ReducesTo scope filter grouping g)
    (layout : Layout) :
    ∃ statements, dot? p g grouping layout = some (document name statements) ∧
      readText? (document name statements) = some (name, placed [] (statements.flatMap Statement.spelled)) ∧
      statements? p g grouping layout = some statements ∧
      Draws p g statements (nests (depth g) (itemsOf g)) (arranged (depth g) (itemsOf g)) := by
  obtain ⟨statements, hstatements, hdraws⟩ := exists_statements? h hs hfocus hg layout
  have hdot : dot? p g grouping layout = some (document name statements) := by
    rw [dot?, hstatements, Option.map_some]
  exact ⟨statements, hdot, readText?_of_statements? hstatements, hstatements, hdraws⟩

/-! ## The clusters of a drawing -/

/-- **A drawing has the clusters of its graph.** If all ids exist, every graph has a drawing, a text that is read back
as its statements. It opens clusters for the keys of the graph only, one for each package, and one for each type if
packages are not drawn. If they are, a type has one in each package cluster that shares a member with it. The clusters
of a key hold its members and nothing else. -/
theorem drawn_clusters (h : p.InRange) (scope : Scope) (hs : scope.InRange p)
    (hfocus : ∀ package ∈ scope.focus?, package < p.packages.length) (filter : Filter) (grouping : Grouping)
    (layout : Layout) :
    ∃ g statements, p.reduce? scope filter grouping = some g ∧
      dot? p g grouping layout = some (document name statements) ∧
      readText? (document name statements) = some (name, placed [] (statements.flatMap Statement.spelled)) ∧
      SameClusters p g grouping (read statements) := by
  obtain ⟨g, hreduce, hg⟩ := h.exists_reduce? hs filter grouping
  obtain ⟨statements, hdot, hread, -, hdraws⟩ := exists_drawing h hs hfocus hg layout
  exact ⟨g, statements, hreduce, hdot, hread, sameClusters hg hdraws⟩

/-- a type with a method of its own and one that forwards to a function of another package -/
def server : Program where
  packages := [⟨"cmd", "main"⟩, ⟨"app", "app"⟩, ⟨"lib", "lib"⟩]
  functions := [{ name := "main", package := 0 }, { name := "Run", package := 1, receiver := some "Server" },
    { name := "Close", package := 1, receiver := some "Server", synthetic := true, wraps := some 3 },
    { name := "close", package := 2 }]
  calls := [{ caller := 0, callee := 1 }, { caller := 0, callee := 2 }]

/-- its graph under packages and types -/
def serverGraph : Graph where
  nodes := [⟨0, [.package "cmd"]⟩, ⟨1, [.package "app", .type "app" "Server"]⟩,
    ⟨2, [.package "lib", .type "app" "Server"]⟩]
  edges := [{ caller := 0, callee := 1, kinds := [.static], sites := 1 },
    { caller := 0, callee := 2, kinds := [.static], sites := 1 }]

theorem reduce?_server :
    server.reduce? (.roots [0]) {} { byPackage := true, byType := true } = some serverGraph := by
  decide +kernel

/-- each package has one cluster, and the two of the type hold its two methods -/
theorem drawn_clusters_server :
    server.InRange ∧ (Scope.roots [0]).InRange server ∧
      ∃ statements, dot? server serverGraph { byPackage := true, byType := true } {} =
          some (document name statements) ∧
        readText? (document name statements) = some (name, placed [] (statements.flatMap Statement.spelled)) ∧
        openings server serverGraph (read statements) (.package "app") = 1 ∧
        List.Perm (inside server serverGraph (read statements) (.type "app" "Server")) ["n1", "n2"] := by
  have hin : server.InRange := by decide
  have hroots : (Scope.roots [0]).InRange server := by decide
  obtain ⟨g, statements, hreduce, hdot, hread, hsame⟩ :=
    drawn_clusters hin (.roots [0]) hroots (by simp [Scope.focus?]) {} { byPackage := true, byType := true } {}
  obtain rfl : g = serverGraph := Option.some.inj (hreduce.symm.trans reduce?_server)
  have happ : (ClusterKey.package "app", [1]) ∈ serverGraph.clusters := by decide +kernel
  have htype : (ClusterKey.type "app" "Server", [1, 2]) ∈ serverGraph.clusters := by decide +kernel
  exact ⟨hin, hroots, statements, hdot, hread, hsame.once _ happ (Or.inl rfl), hsame.members _ htype⟩

/-- **A type can be drawn twice.** The key of the type occurs once in the list of clusters, and two clusters are opened
for it: its methods lie in two packages, because one of them is a wrapper. -/
theorem type_drawn_twice :
    server.InRange ∧ (Scope.roots [0]).InRange server ∧
      server.reduce? (.roots [0]) {} { byPackage := true, byType := true } = some serverGraph ∧
      (serverGraph.clusters.filter fun c => c.1 = .type "app" "Server") = [(.type "app" "Server", [1, 2])] ∧
      ∃ statements, dot? server serverGraph { byPackage := true, byType := true } {} =
          some (document name statements) ∧
        readText? (document name statements) = some (name, placed [] (statements.flatMap Statement.spelled)) ∧
        openings server serverGraph (read statements) (.type "app" "Server") = 2 := by
  have hin : server.InRange := by decide
  have hroots : (Scope.roots [0]).InRange server := by decide
  obtain ⟨g, hreduce, hg⟩ := hin.exists_reduce? hroots {} { byPackage := true, byType := true }
  obtain rfl : g = serverGraph := Option.some.inj (hreduce.symm.trans reduce?_server)
  obtain ⟨statements, hdot, hread, -, hdraws⟩ := exists_drawing hin hroots (by simp [Scope.focus?]) hg {}
  refine ⟨hin, hroots, hreduce, by decide +kernel, statements, hdot, hread, ?_⟩
  rw [hdraws.openings_eq]
  decide +kernel

/-! ## The shape of a drawing -/

/-- **A drawing has the shape of its graph.** If all ids exist, every graph has a drawing, a text that is read back as
its statements. It declares each node of the graph once, inside the clusters of its keys with the outermost first, and
no other node. Each cluster is closed, has a node in it and has a name of its own. After all this there is one statement
for each edge, in the order of the edges, between nodes that are declared. -/
theorem shaped (h : p.InRange) (scope : Scope) (hs : scope.InRange p)
    (hfocus : ∀ package ∈ scope.focus?, package < p.packages.length) (filter : Filter) (grouping : Grouping)
    (layout : Layout) :
    ∃ g statements, p.reduce? scope filter grouping = some g ∧
      dot? p g grouping layout = some (document name statements) ∧
      readText? (document name statements) = some (name, placed [] (statements.flatMap Statement.spelled)) ∧
      Shaped p g statements := by
  obtain ⟨g, hreduce, hg⟩ := h.exists_reduce? hs filter grouping
  obtain ⟨statements, hdot, hread, hstatements, hdraws⟩ := exists_drawing h hs hfocus hg layout
  exact ⟨g, statements, hreduce, hdot, hread, shaped_of_statements? hg hstatements hdraws⟩

/-- two packages whose paths are alike as identifiers, each with a type of its own -/
def lookalikes : Program where
  packages := [⟨"app/x", "main"⟩, ⟨"app_x", "x"⟩]
  functions := [{ name := "main", package := 0 }, { name := "Get", package := 1, receiver := some "T" },
    { name := "Put", package := 0, receiver := some "T" }]
  calls := [{ caller := 0, callee := 1 }, { caller := 1, callee := 2 }]

/-- its graph under packages and types -/
def lookalikesGraph : Graph where
  nodes := [⟨0, [.package "app/x"]⟩, ⟨1, [.package "app_x", .type "app_x" "T"]⟩,
    ⟨2, [.package "app/x", .type "app/x" "T"]⟩]
  edges := [{ caller := 0, callee := 1, kinds := [.static], sites := 1 },
    { caller := 1, callee := 2, kinds := [.static], sites := 1 }]

/-- the two clusters of packages are told apart, as are the two of types, and the method stands in both of its own -/
theorem shaped_lookalikes :
    lookalikes.InRange ∧ (Scope.roots [0]).InRange lookalikes ∧ identifier "app/x" = identifier "app_x" ∧
      ∃ statements, dot? lookalikes lookalikesGraph { byPackage := true, byType := true } {} =
          some (document name statements) ∧
        readText? (document name statements) = some (name, placed [] (statements.flatMap Statement.spelled)) ∧
        (clusterNames statements).Nodup ∧ statements.foldlM levelAfter? 0 = some 0 ∧
        ∃ os, ("n2", os) ∈ (read statements).nodes ∧
          ShowAll lookalikes lookalikesGraph [.package "app/x", .type "app/x" "T"] os := by
  have hin : lookalikes.InRange := by decide
  have hroots : (Scope.roots [0]).InRange lookalikes := by decide
  obtain ⟨g, statements, hreduce, hdot, hread, hshaped⟩ :=
    shaped hin (.roots [0]) hroots (by simp [Scope.focus?]) {} { byPackage := true, byType := true } {}
  have hgraph : lookalikes.reduce? (.roots [0]) {} { byPackage := true, byType := true } = some lookalikesGraph := by
    decide +kernel
  obtain rfl : g = lookalikesGraph := Option.some.inj (hreduce.symm.trans hgraph)
  exact ⟨hin, hroots, by decide, statements, hdot, hread, hshaped.names, hshaped.nested,
    hshaped.around ⟨2, [.package "app/x", .type "app/x" "T"]⟩ (by simp [lookalikesGraph])⟩

end CallAtlas.Drawing
