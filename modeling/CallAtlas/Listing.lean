/-
Reduced graphs as JSON documents.

A listing names functions by their qualified names: nodes with what is known of them, edges from name to name with the
kinds of their calls, and clusters with their members. It tells what the drawing of the same graph shows, for tools that
lay graphs out themselves. Looking up an id that does not exist is `none`.
-/
import CallAtlas.Json.Written
import CallAtlas.Reduction
import CallAtlas.Settings

namespace CallAtlas.Listing

open Json (Value)

/-- numbers have their point up to sixteen places, else an exponent; of two equally near decimals the even one is
taken -/
def numbers : Binary64.Style := ⟨false, true, some (-4, 16)⟩

/-- a number; what is not finite has no place in a document -/
def number (x : Binary64) : Value :=
  match x with
  | .finite _ _ _ => .number (x.written numbers)
  | _ => .null

def strings (xs : List String) : Value :=
  .array (xs.map .string)

/-- the path of the focus package, or null -/
def focus? (p : Program) (g : Graph) : Option Value :=
  match g.focus with
  | none => some .null
  | some id => (p.packages[id]?).map fun k => .string k.path

def layout (l : Layout) : Value :=
  .object [("minlen", .number (toString l.edgeLength)), ("nodesep", number l.nodeSeparation)]

/-- a node; a plain function has no receiver -/
def node? (p : Program) (n : Node) : Option Value := do
  let f ← p.functions[n.id]?
  let package ← p.packages[f.package]?
  let id ← p.qualifiedName? n.id
  let receiver := f.receiver.toList.map fun r => ("receiver", Value.string r)
  return .object
    ([("id", .string id), ("name", .string f.name), ("package", .string package.path)] ++ receiver
      ++ [("synthetic", .bool f.synthetic), ("clusters", strings (n.clusters.map ClusterKey.text))])

def edge? (p : Program) (e : Edge) : Option Value := do
  let caller ← p.qualifiedName? e.caller
  let callee ← p.qualifiedName? e.callee
  return .object
    [("from", .string caller), ("to", .string callee), ("kinds", strings (e.kinds.map CallKind.name))]

/-- what identifies a cluster -/
def keyMembers : ClusterKey → List (String × Value)
  | .package path => [("kind", .string "package"), ("path", .string path)]
  | .type owner name => [("kind", .string "type"), ("package", .string owner), ("name", .string name)]

def cluster? (p : Program) (c : ClusterKey × List FunctionId) : Option Value := do
  return .object (keyMembers c.1 ++ [("members", strings (← c.2.mapM p.qualifiedName?))])

/-- a graph as a document -/
def document? (p : Program) (g : Graph) (l : Layout) : Option Value := do
  let focus ← focus? p g
  let nodes ← g.nodes.mapM (node? p)
  let edges ← g.edges.mapM (edge? p)
  let clusters ← g.clusters.mapM (cluster? p)
  return .object
    [("focus", focus), ("layout", layout l), ("nodes", .array nodes), ("edges", .array edges),
      ("clusters", .array clusters)]

/-- a graph as the text of a document -/
def json? (p : Program) (g : Graph) (l : Layout) : Option String :=
  (document? p g l).map fun v => v.pretty 0 ++ "\n"

end CallAtlas.Listing
