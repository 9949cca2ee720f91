/-
Programs that differ in their calls.

`SameFunctions p q` says that two programs have the same packages, functions and module paths, so that only their calls
and entries can differ. What is asked of a function alone then has one answer in both: where it is defined, whether the
filter keeps it, and in which clusters it is.
- `SameFunctions.clusterKeys?`: this holds of chains of wrappers too, which are followed without calls.
- `SameFunctions.reduce?_eq`: if the scopes ask for the same calls, in any order, and show the same functions besides,
  both programs reduce to one graph.
-/
import CallAtlas.Proofs.Reduction

namespace CallAtlas.Program

/-- two programs differ in calls and entries at most -/
structure SameFunctions (p q : Program) : Prop where
  packages : q.packages = p.packages
  functions : q.functions = p.functions
  ownModules : q.ownModules = p.ownModules
  libraryModules : q.libraryModules = p.libraryModules

namespace SameFunctions

variable {p q : Program}

/-! ## What is asked of a function -/

theorem packageOf? (h : SameFunctions p q) (f : FunctionId) : q.packageOf? f = p.packageOf? f := by
  unfold Program.packageOf?
  rw [h.functions, h.packages]

theorem keeps? (h : SameFunctions p q) (filter : Filter) (f : FunctionId) :
    q.keeps? filter f = p.keeps? filter f := by
  unfold Program.keeps?
  rw [h.packageOf?, h.ownModules, h.libraryModules]

theorem keepsCall? (h : SameFunctions p q) (filter : Filter) (c : Call) :
    q.keepsCall? filter c = p.keepsCall? filter c := by
  unfold Program.keepsCall?
  rw [h.keeps?, h.keeps?]

theorem definedIn_iff (h : SameFunctions p q) {package : PackageId} {f : FunctionId} :
    q.DefinedIn package f ↔ p.DefinedIn package f := by
  unfold DefinedIn
  rw [h.functions]

theorem qualifiedName? (h : SameFunctions p q) (f : FunctionId) : q.qualifiedName? f = p.qualifiedName? f := by
  unfold Program.qualifiedName?
  rw [h.functions, h.packages]

/-! ## Clusters -/

/-- a chain of wrappers is followed by `wraps` alone -/
theorem chainPackage? (h : SameFunctions p q) (fresh : List FunctionId) (f : FunctionId) :
    q.chainPackage? fresh f = p.chainPackage? fresh f := by
  -- along the chain of p, at each function of which q has the same wrapper
  fun_induction Program.chainPackage? p fresh f with
  | case1 fresh f hnone => simp [Program.chainPackage?, h.functions, hnone]
  | case2 fresh f g hg target hwraps hsyn hfresh ih =>
    rw [← ih, Program.chainPackage?]
    simp [h.functions, hg, hwraps, hsyn, hfresh]
  | case3 fresh f g hg target hwraps hsyn hmet =>
    rw [Program.chainPackage?]
    simp [h.functions, hg, hwraps, hsyn, hmet]
  | case4 fresh f g hg hend =>
    rw [Program.chainPackage?]
    simp only [h.functions, hg]

theorem packageKey? (h : SameFunctions p q) (f : FunctionId) : q.packageKey? f = p.packageKey? f := by
  unfold Program.packageKey? Program.owningPackage?
  rw [h.functions, h.chainPackage?, h.packages]

theorem typeKeys? (h : SameFunctions p q) (f : FunctionId) : q.typeKeys? f = p.typeKeys? f := by
  unfold Program.typeKeys?
  rw [h.functions, h.packages]

theorem clusterKeys? (h : SameFunctions p q) (grouping : Grouping) (f : FunctionId) :
    q.clusterKeys? grouping f = p.clusterKeys? grouping f := by
  unfold Program.clusterKeys?
  rw [h.packageKey?, h.typeKeys?]

/-! ## The reduced graph -/

section Reduced

variable {scope scope' : Scope}

theorem scope_inRange (h : SameFunctions p q) (hshown : ∀ f, f ∈ scope'.shown ↔ f ∈ scope.shown)
    (hs : scope.InRange p) : scope'.InRange q := by
  intro f hf
  rw [h.functions]
  exact hs f ((hshown f).1 hf)

theorem keptCandidates (h : SameFunctions p q) (hshown : ∀ f, f ∈ scope'.shown ↔ f ∈ scope.shown)
    (hends : ∀ f, (∃ c ∈ q.eligibleCalls scope', c.caller = f ∨ c.callee = f) ↔
      ∃ c ∈ p.eligibleCalls scope, c.caller = f ∨ c.callee = f) (filter : Filter) :
    q.keptCandidates scope' filter = p.keptCandidates scope filter := by
  unfold Program.keptCandidates
  rw [candidates_congr hshown hends]
  simp only [h.keeps?]

/-- **One graph for both.** Programs of the same functions reduce alike if their scopes ask for the same calls and show
the same functions besides. -/
theorem reduce?_eq (h : SameFunctions p q) (hp : p.InRange) (hq : q.InRange) (hs : scope.InRange p)
    (hfocus : scope'.focus? = scope.focus?) (hshown : ∀ f, f ∈ scope'.shown ↔ f ∈ scope.shown)
    (hcalls : (q.eligibleCalls scope').Perm (p.eligibleCalls scope)) (filter : Filter) (grouping : Grouping) :
    q.reduce? scope' filter grouping = p.reduce? scope filter grouping := by
  have hs' : scope'.InRange q := h.scope_inRange hshown hs
  have hnodes : q.keptCandidates scope' filter = p.keptCandidates scope filter := by
    apply h.keptCandidates hshown
    intro f
    simp only [hcalls.mem_iff]
  have hedges : edgesOf (q.keptCalls scope' filter) = edgesOf (p.keptCalls scope filter) := by
    apply edgesOf_perm
    unfold keptCalls
    simp only [h.keepsCall?]
    exact hcalls.filter _
  rw [hq.reduce?_eq hs', hp.reduce?_eq hs, hfocus, hnodes, hedges]
  simp only [h.clusterKeys?]

end Reduced

end SameFunctions

end CallAtlas.Program
