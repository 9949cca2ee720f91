/-
Clusters: the groups in which functions are drawn.

A function has at most one key for each active dimension. Under packages it belongs to its own package, except that a
generated wrapper belongs where the function it forwards to belongs; under types a method belongs to its receiver type,
told apart by its owner, the defining package. Chains of wrappers are followed to their end, and a chain that runs in a
circle stops at the first function met twice.
-/
import CallAtlas.Grouping
import CallAtlas.Ordered
import CallAtlas.Program

namespace CallAtlas

/-- what identifies a cluster -/
inductive ClusterKey where
  | package (path : String)
  | type (owner name : String)
  deriving DecidableEq, Repr

namespace ClusterKey

def dimension : ClusterKey → Dimension
  | .package _ => .package
  | .type _ _ => .type

/-- a key as it is shown -/
def text : ClusterKey → String
  | .package path => path
  | .type owner name => owner ++ "." ++ name

/-- packages by path, then types by package and name -/
def before : ClusterKey → ClusterKey → Bool
  | .package p, .package q => Ordered.textBefore p q
  | .package _, .type _ _ => true
  | .type _ _, .package _ => false
  | .type p n, .type q m => Ordered.pairBefore Ordered.textBefore Ordered.textBefore (p, n) (q, m)

theorem isOrder_before : Ordered.IsOrder before where
  irrefl a := by
    cases a with
    | package p => exact Ordered.isOrder_text.irrefl p
    | type p n => exact (Ordered.isOrder_pair Ordered.isOrder_text Ordered.isOrder_text).irrefl (p, n)
  trans a b c := by
    cases a <;> cases b <;> cases c <;> simp only [before, reduceCtorEq, false_implies, implies_true]
    · exact Ordered.isOrder_text.trans _ _ _
    · exact (Ordered.isOrder_pair Ordered.isOrder_text Ordered.isOrder_text).trans _ _ _
  tri a b := by
    cases a <;> cases b <;> simp only [before, reduceCtorEq, false_implies, implies_true]
    · exact fun h h' => congrArg package (Ordered.isOrder_text.tri _ _ h h')
    · intro h h'
      have := (Ordered.isOrder_pair Ordered.isOrder_text Ordered.isOrder_text).tri _ _ h h'
      simp_all

end ClusterKey

namespace Program

/-- the package of the last function on a chain of wrappers; `fresh` are the functions not met yet -/
def chainPackage? (p : Program) (fresh : List FunctionId) (id : FunctionId) : Option PackageId :=
  match p.functions[id]? with
  | none => none
  | some f =>
    match f.synthetic, f.wraps with
    | true, some target => if id ∈ fresh then p.chainPackage? (fresh.erase id) target else some f.package
    | _, _ => some f.package
termination_by fresh.length
decreasing_by
  have := List.length_erase_of_mem ‹id ∈ fresh›
  have := List.length_pos_of_mem ‹id ∈ fresh›
  omega

/-- the package under which a function is grouped -/
def owningPackage? (p : Program) (id : FunctionId) : Option PackageId :=
  p.chainPackage? (List.range p.functions.length) id

/-- the key of a function under packages -/
def packageKey? (p : Program) (id : FunctionId) : Option ClusterKey := do
  let owner ← p.owningPackage? id
  let package ← p.packages[owner]?
  some (.package package.path)

/-- the keys of a function under types: one for a method, none for a plain function -/
def typeKeys? (p : Program) (id : FunctionId) : Option (List ClusterKey) := do
  let f ← p.functions[id]?
  match f.receiver with
  | none => some []
  | some receiver =>
    let package ← p.packages[f.package]?
    some [.type package.path receiver]

/-- the keys of a function, its package before its type -/
def clusterKeys? (p : Program) (grouping : Grouping) (id : FunctionId) : Option (List ClusterKey) := do
  let packages ← if grouping.byPackage then (p.packageKey? id).map ([·]) else some []
  let types ← if grouping.byType then p.typeKeys? id else some []
  some (packages ++ types)

end Program

end CallAtlas
