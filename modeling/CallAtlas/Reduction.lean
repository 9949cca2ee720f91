/-
The graph that is shown.

`reduce` takes the calls on a path through the focus package, or those reachable from the roots when there is no
focus; keeps the functions at their ends (and the roots) that pass the filter; gives each its cluster keys; and makes
one edge of all calls between the same two functions. Nodes ascend by id and edges by caller and callee. An id that
does not exist is `none`.
-/
import CallAtlas.Cluster
import CallAtlas.Edge
import CallAtlas.Reach
import CallAtlas.Selection

namespace CallAtlas

/-- where reachability starts -/
inductive Scope where
  /-- all calls on a path into or out of a package -/
  | focus (package : PackageId)
  /-- all calls reachable from functions -/
  | roots (functions : List FunctionId)
  deriving DecidableEq, Repr

/-- a function that is shown -/
structure Node where
  id : FunctionId
  clusters : List ClusterKey
  deriving DecidableEq, Repr

/-- the graph that is shown -/
structure Graph where
  focus : Option PackageId := none
  nodes : List Node := []
  edges : List Edge := []
  deriving DecidableEq, Repr

namespace Graph

def isEmpty (g : Graph) : Bool :=
  g.nodes.isEmpty

/-- the node of a function, looked for by halving, since nodes ascend -/
def node? (g : Graph) (id : FunctionId) : Option Node :=
  (Ordered.position? Ordered.natBefore Node.id g.nodes id).bind fun i => g.nodes[i]?

def contains (g : Graph) (id : FunctionId) : Bool :=
  (g.node? id).isSome

/-- the functions in a cluster -/
def members (g : Graph) (key : ClusterKey) : List FunctionId :=
  (g.nodes.filter fun n => n.clusters.contains key).map Node.id

/-- the clusters and their members, in the order of their keys -/
def clusters (g : Graph) : List (ClusterKey × List FunctionId) :=
  (Ordered.ofList ClusterKey.before (g.nodes.flatMap Node.clusters)).map fun key => (key, g.members key)

end Graph

namespace Scope

def focus? : Scope → Option PackageId
  | .focus package => some package
  | .roots _ => none

/-- the functions that are shown even if they take part in no call -/
def shown : Scope → List FunctionId
  | .focus _ => []
  | .roots functions => functions

end Scope

namespace Program

/-! ## Calls on an eligible path -/

/-- both ends of a call exist -/
def hasEnds (p : Program) (c : Call) : Bool :=
  c.caller < p.functions.length && c.callee < p.functions.length

/-- for each function at one end of a call, the functions at the other end -/
def neighbours (p : Program) (near far : Call → FunctionId) : Table :=
  (List.range p.functions.length).map fun u => (p.calls.filter fun c => near c == u).map far

/-- who calls whom -/
def callees (p : Program) : Table :=
  p.neighbours Call.caller Call.callee

/-- who is called by whom -/
def callers (p : Program) : Table :=
  p.neighbours Call.callee Call.caller

/-- functions defined in a package -/
def definedIn (p : Program) (package : PackageId) : List FunctionId :=
  p.functions.zipIdx.filterMap fun (f, id) => if f.package = package then some id else none

/-- the calls on a path that the scope asks for -/
def eligibleCalls (p : Program) : Scope → List Call
  | .focus package =>
    let seeds := p.definedIn package
    let descendants := closure p.callees seeds
    let ancestors := closure p.callers seeds
    p.calls.filter fun c => descendants.has c.caller || ancestors.has c.callee
  | .roots functions =>
    let reachable := closure p.callees functions
    p.calls.filter fun c => reachable.has c.caller

/-! ## The reduced graph -/

/-- the functions that a set of calls brings in, in ascending order -/
def candidates (scope : Scope) (calls : List Call) : List FunctionId :=
  Ordered.ofList Ordered.natBefore (scope.shown ++ calls.flatMap fun c => [c.caller, c.callee])

/-- the graph to show of a program -/
def reduce? (p : Program) (scope : Scope) (filter : Filter) (grouping : Grouping) : Option Graph :=
  if p.calls.all p.hasEnds && scope.shown.all (· < p.functions.length) then do
    let calls := p.eligibleCalls scope
    let decided ← (candidates scope calls).mapM fun id => (p.keeps? filter id).map (id, ·)
    let kept := (decided.filter Prod.snd).map Prod.fst
    let nodes ← kept.mapM fun id => (p.clusterKeys? grouping id).map (Node.mk id)
    some
      { focus := scope.focus?
        nodes
        edges := edgesOf (calls.filter fun c => kept.contains c.caller && kept.contains c.callee) }
  else none

end Program

end CallAtlas
