/-
Reduced graphs as drawings.

Each node of a graph becomes a node statement and each edge an edge statement, with the edges after all nodes. Nodes
stand inside the clusters of their keys, packages around types; clusters come in the order of their keys and are
numbered as they are opened, which keeps their names apart. Labels leave out what a cluster or the focus already says.
Looking up an id that does not exist is `none`.
-/
import CallAtlas.Dot.Statement
import CallAtlas.Reduction
import CallAtlas.Settings

namespace CallAtlas.Drawing

open Dot

/-- name of every drawing -/
def name : String := "callscope"

/-! ## Labels -/

/-- a function's name, with its receiver and its package where nothing else shows them -/
def label? (p : Program) (g : Graph) (grouping : Grouping) (id : FunctionId) : Option String := do
  let f ← p.functions[id]?
  let label :=
    match f.receiver with
    | some receiver => if grouping.byType then f.name else receiver ++ "." ++ f.name
    | none => f.name
  if grouping.byPackage || g.focus = some f.package then return label
  let package ← p.packages[f.package]?
  return package.name ++ "." ++ label

/-- the statement that names a function -/
def nodeId (id : FunctionId) : String := "n" ++ toString id

/-! ## Statements -/

/-- the statement of a node -/
def nodeStatement? (p : Program) (g : Graph) (grouping : Grouping) (id : FunctionId) : Option Statement := do
  let f ← p.functions[id]?
  let label ← label? p g grouping id
  let tooltip ← p.qualifiedName? id
  let color := if g.focus = some f.package then [("fillcolor", "lightblue")] else []
  let style := if f.synthetic then [("style", "dotted,filled")] else []
  return .node (nodeId id) ([("label", label), ("tooltip", tooltip)] ++ color ++ style)

/-- the statement of an edge: dashed when it is dynamic, with an arrow of its own when a call is started or deferred -/
def edgeStatement? (p : Program) (e : Edge) : Option Statement := do
  let style := if e.isDynamic then [("style", "dashed")] else []
  let arrow :=
    if e.kinds.contains .go then [("arrowhead", "normalnoneodot")]
    else if e.kinds.contains .defer then [("arrowhead", "normalnoneodiamond")]
    else []
  let caller ← p.qualifiedName? e.caller
  let callee ← p.qualifiedName? e.callee
  return .edge (nodeId e.caller) (nodeId e.callee) (style ++ arrow ++ [("tooltip", caller ++ " -> " ++ callee)])

/-- attributes of a cluster -/
def clusterAttributes? (p : Program) (g : Graph) : ClusterKey → Option (List Attribute)
  | .package path => do
    let id? := p.packageByPath? path
    let label ← match id? with
      | some id => (p.packages[id]?).map Package.name
      | none => some path
    let color := if id?.isSome && id? = g.focus then "lightyellow" else "snow"
    return [("label", label), ("tooltip", path), ("style", "filled"), ("fillcolor", color), ("penwidth", "0.8"),
      ("fontsize", "16")]
  | .type owner name =>
    some [("label", name), ("tooltip", owner ++ "." ++ name), ("style", "rounded,filled"), ("fillcolor", "wheat2"),
      ("penwidth", "0.5"), ("fontsize", "15")]

/-- the statements around a cluster's own, under the number with which it is opened -/
def clusterStatements? (p : Program) (g : Graph) (number : Nat) (key : ClusterKey) (inside : List Statement) :
    Option (List Statement) := do
  let attributes ← clusterAttributes? p g key
  return .openCluster (toString number ++ "_" ++ key.text) attributes :: (inside ++ [.closeCluster])

/-- a node and the keys of the clusters around it, outermost first, as far as they are not open yet -/
abbrev Item := List ClusterKey × FunctionId

/-- the keys that come next, in their order -/
def nextKeys (items : List Item) : List ClusterKey :=
  Ordered.ofList ClusterKey.before (items.filterMap fun i => i.1.head?)

/-- the items of a cluster, once it is open -/
def itemsIn (key : ClusterKey) (items : List Item) : List Item :=
  items.filterMap fun
    | (k :: keys, id) => if k = key then some (keys, id) else none
    | ([], _) => none

/-- the nodes that stand in no further cluster -/
def membersOf (items : List Item) : List FunctionId :=
  items.filterMap fun i => if i.1 = [] then some i.2 else none

/-- clusters one after another, each with its inside; the count of clusters opened goes along -/
def clusters? (p : Program) (g : Graph) (inside : Nat → List Item → Option (Nat × List Statement))
    (items : List Item) : Nat → List ClusterKey → Option (Nat × List Statement)
  | count, [] => some (count, [])
  | count, key :: keys => do
    let (next, own) ← inside (count + 1) (itemsIn key items)
    let own ← clusterStatements? p g (count + 1) key own
    let (next, rest) ← clusters? p g inside items next keys
    return (next, own ++ rest)

/-- clusters and then single nodes, with clusters nested at most to a depth -/
def tree? (p : Program) (g : Graph) (grouping : Grouping) :
    (depth : Nat) → (count : Nat) → List Item → Option (Nat × List Statement)
  | 0, count, items => do
    return (count, ← (items.map Prod.snd).mapM (nodeStatement? p g grouping))
  | depth + 1, count, items => do
    let (count, clusters) ← clusters? p g (tree? p g grouping depth) items count (nextKeys items)
    let members ← (membersOf items).mapM (nodeStatement? p g grouping)
    return (count, clusters ++ members)

/-- the depth of nesting that a graph needs -/
def depth (g : Graph) : Nat :=
  g.nodes.foldl (fun d n => max d n.clusters.length) 0

/-- the statements before the first node -/
def preamble (focusPath : String) (layout : Layout) : List Statement :=
  [ .assign "label" focusPath
  , .assign "labeljust" "l"
  , .assign "fontname" "Arial"
  , .assign "fontsize" "14"
  , .assign "rankdir" "LR"
  , .assign "bgcolor" "lightgray"
  , .assign "style" "solid"
  , .assign "penwidth" "0.5"
  , .assign "pad" "0.0"
  , .assign "nodesep" (layout.nodeSeparation.written Binary64.plain)
  , .defaults "node"
      [("shape", "ellipse"), ("style", "filled"), ("fillcolor", "honeydew"), ("fontname", "Verdana"),
        ("penwidth", "1.0"), ("margin", "0.05,0.0")]
  , .defaults "edge" [("minlen", toString layout.edgeLength)]
  , .blank ]

/-- the path of the focus package; no focus has no path -/
def focusPath? (p : Program) (g : Graph) : Option String :=
  match g.focus with
  | none => some ""
  | some id => (p.packages[id]?).map Package.path

/-- the statements of a graph -/
def statements? (p : Program) (g : Graph) (grouping : Grouping) (layout : Layout) : Option (List Statement) := do
  let focusPath ← focusPath? p g
  let (_, nodes) ← tree? p g grouping (depth g) 0 (g.nodes.map fun n => (n.clusters, n.id))
  let edges ← g.edges.mapM (edgeStatement? p)
  return preamble focusPath layout ++ nodes ++ (if edges = [] then [] else .blank :: edges)

/-- a graph as a drawing -/
def dot? (p : Program) (g : Graph) (grouping : Grouping) (layout : Layout) : Option String :=
  (statements? p g grouping layout).map (document name)

end CallAtlas.Drawing
