/-
Edges: all calls between the same two functions as one.

`edgesOf` takes the calls one after another. Each joins the edge of its ends, which then has one more call site and the
call's kind, or opens that edge in its place. Edges ascend by caller and callee, the kinds of an edge by their order.
-/
import CallAtlas.Ordered
import CallAtlas.Program

namespace CallAtlas

/-- kinds by their place among all kinds -/
def CallKind.before (a b : CallKind) : Bool :=
  CallKind.all.idxOf a < CallKind.all.idxOf b

theorem CallKind.isOrder_before : Ordered.IsOrder CallKind.before where
  irrefl a := by cases a <;> rfl
  trans a b c := by cases a <;> cases b <;> cases c <;> decide
  tri a b := by cases a <;> cases b <;> decide

/-- the two functions of a call -/
def Call.ends (c : Call) : FunctionId × FunctionId :=
  (c.caller, c.callee)

/-- all calls between two functions -/
structure Edge where
  caller : FunctionId
  callee : FunctionId
  /-- kinds of the calls, each once, in their order -/
  kinds : List CallKind
  /-- number of call sites -/
  sites : Nat
  deriving DecidableEq, Repr

namespace Edge

/-- one of the calls is dispatched dynamically -/
def isDynamic (e : Edge) : Bool :=
  e.kinds.contains .dynamic

/-- the two functions of an edge -/
def ends (e : Edge) : FunctionId × FunctionId :=
  (e.caller, e.callee)

/-- pairs of functions by caller, then by callee -/
def endsBefore : FunctionId × FunctionId → FunctionId × FunctionId → Bool :=
  Ordered.pairBefore Ordered.natBefore Ordered.natBefore

theorem isOrder_ends : Ordered.IsOrder endsBefore :=
  Ordered.isOrder_pair Ordered.isOrder_nat Ordered.isOrder_nat

theorem endsBefore_iff {a b : Nat × Nat} :
    endsBefore a b = true ↔ a.1 < b.1 ∨ a.1 = b.1 ∧ a.2 < b.2 := by
  rw [endsBefore, Ordered.pairBefore_iff Ordered.isOrder_nat]
  simp only [Ordered.natBefore, decide_eq_true_iff]

/-- an edge before any call has joined it -/
def between (ends : FunctionId × FunctionId) : Edge :=
  ⟨ends.1, ends.2, [], 0⟩

/-- an edge with one more call -/
def join (e : Edge) (c : Call) : Edge :=
  { e with kinds := Ordered.insert CallKind.before c.kind e.kinds, sites := e.sites + 1 }

@[simp] theorem ends_between (ends : FunctionId × FunctionId) : (between ends).ends = ends := rfl

@[simp] theorem ends_join (e : Edge) (c : Call) : (e.join c).ends = e.ends := rfl

@[simp] theorem sites_join (e : Edge) (c : Call) : (e.join c).sites = e.sites + 1 := rfl

theorem mem_kinds_join {e : Edge} {c : Call} {k : CallKind} : k ∈ (e.join c).kinds ↔ k = c.kind ∨ k ∈ e.kinds :=
  Ordered.mem_insert CallKind.isOrder_before

end Edge

/-- ascending edges with one more call: in the edge of its ends, or in a new one -/
def joinCall : List Edge → Call → List Edge
  | [], c => [(Edge.between c.ends).join c]
  | e :: r, c =>
    if Edge.endsBefore c.ends e.ends then (Edge.between c.ends).join c :: e :: r
    else if Edge.endsBefore e.ends c.ends then e :: joinCall r c
    else e.join c :: r

/-- one edge for each pair of functions with a call between them -/
def edgesOf (calls : List Call) : List Edge :=
  calls.foldl joinCall []

end CallAtlas
