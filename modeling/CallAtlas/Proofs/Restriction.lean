/-
What a reduction leaves when it is made again on less.

Two ways to take something away before the reduction change nothing but what is taken away:
- `filter_restricts`: the graph under a filter is the graph under no filter, cut down to the functions that the filter
  keeps. So the filter takes no part in reachability, and it changes no edge that it leaves.
- `trimmed_reduces_alike`: a program without the calls that are not eligible reduces to the same graph, and all the calls
  it has left are eligible. The reason is that all calls on the way to or from a seed are eligible themselves
  (`InRange.reaches_trimmed_of_source`, `InRange.reaches_trimmed_of_target`).
-/
import CallAtlas.Proofs.SameFunctions

namespace CallAtlas

/-- the part of a graph on some functions: their nodes and the edges between them -/
def Graph.restrict (g : Graph) (keeps : FunctionId → Bool) : Graph where
  focus := g.focus
  nodes := g.nodes.filter fun n => keeps n.id
  edges := g.edges.filter fun e => keeps e.caller && keeps e.callee

namespace Program

open Relation

variable {p : Program} {scope : Scope} {filter : Filter} {f u v s t : FunctionId} {package : PackageId}

/-! ## Without a filter -/

theorem InRange.keeps?_default (h : p.InRange) (hf : f < p.functions.length) : p.keeps? {} f = some true := by
  obtain ⟨k, hk⟩ := h.exists_packageOf? hf
  unfold keeps?
  rw [hk, Option.map_some, Filter.keepsPath_default]

theorem InRange.keptCandidates_eq_filter (h : p.InRange) (hs : scope.InRange p) (filter : Filter) :
    p.keptCandidates scope filter =
      (p.keptCandidates scope {}).filter fun f => p.keeps? filter f = some true := by
  have hall : p.keptCandidates scope {} = candidates scope (p.eligibleCalls scope) := by
    apply List.filter_eq_self.2
    intro f hf
    exact decide_eq_true (h.keeps?_default (h.lt_of_mem_candidates hs hf))
  rw [hall, keptCandidates]

theorem InRange.keptCalls_eq_filter (h : p.InRange) (hs : scope.InRange p) (filter : Filter) :
    p.keptCalls scope filter =
      (p.keptCalls scope {}).filter fun c =>
        decide (p.keeps? filter c.caller = some true) && decide (p.keeps? filter c.callee = some true) := by
  have hall : p.keptCalls scope {} = p.eligibleCalls scope := by
    apply List.filter_eq_self.2
    intro c hc
    obtain ⟨hcaller, hcallee⟩ := h.calls c ((h.mem_eligibleCalls hs).1 hc).1
    exact decide_eq_true (keepsCall?_eq_some_true.2 ⟨h.keeps?_default hcaller, h.keeps?_default hcallee⟩)
  rw [hall, keptCalls]
  apply List.filter_congr
  intro c _
  simp [keepsCall?_eq_some_true]

/-- **Filters restrict.** Under every scope, the graph under a filter is the part of the unfiltered graph on the functions
that the filter keeps, with the keys, kinds and call sites that they have there. -/
theorem filter_restricts (h : p.InRange) (scope : Scope) (hs : scope.InRange p) (filter : Filter)
    (grouping : Grouping) :
    ∃ g, p.reduce? scope {} grouping = some g ∧
      p.reduce? scope filter grouping = some (g.restrict fun f => p.keeps? filter f = some true) := by
  have hnodes : p.keptCandidates scope filter =
      (p.keptCandidates scope {}).filter fun f => p.keeps? filter f = some true :=
    h.keptCandidates_eq_filter hs filter
  have hedges : edgesOf (p.keptCalls scope filter) =
      (edgesOf (p.keptCalls scope {})).filter fun e =>
        decide (p.keeps? filter e.caller = some true) && decide (p.keeps? filter e.callee = some true) := by
    rw [h.keptCalls_eq_filter hs filter]
    exact edgesOf_filter
      (fun ends => decide (p.keeps? filter ends.1 = some true) && decide (p.keeps? filter ends.2 = some true)) _
  refine ⟨_, h.reduce?_eq hs {} grouping, ?_⟩
  rw [h.reduce?_eq hs filter grouping, hnodes, hedges, Graph.restrict, List.filter_map]
  rfl

/-- main sorts by a method of its own, which it also calls and starts itself -/
def sorter : Program where
  packages := [⟨"app", "main"⟩, ⟨"sort", "sort"⟩]
  functions := [{ name := "main", package := 0 }, { name := "Sort", package := 1 },
    { name := "Less", package := 0, receiver := some "byAge" }]
  calls := [{ caller := 0, callee := 1 }, { caller := 0, callee := 2, kind := .go },
    { caller := 1, callee := 2, kind := .dynamic }, { caller := 0, callee := 2 }]
  ownModules := ["app"]

/-- its graph under no filter -/
def sorterGraph : Graph where
  nodes := [⟨0, []⟩, ⟨1, []⟩, ⟨2, [.type "app" "byAge"]⟩]
  edges := [{ caller := 0, callee := 1, kinds := [.static], sites := 1 },
    { caller := 0, callee := 2, kinds := [.static, .go], sites := 2 },
    { caller := 1, callee := 2, kinds := [.dynamic], sites := 1 }]

/-- without the toolchain, one edge is left as it was -/
theorem filter_restricts_sorter :
    sorter.InRange ∧ (Scope.roots [0]).InRange sorter ∧
      sorter.reduce? (.roots [0]) {} { byType := true } = some sorterGraph ∧
      ∃ g, sorter.reduce? (.roots [0]) { omitStd := true } { byType := true } = some g ∧
        g.nodes = [⟨0, []⟩, ⟨2, [.type "app" "byAge"]⟩] ∧
        g.edges = [{ caller := 0, callee := 2, kinds := [.static, .go], sites := 2 }] := by
  have hin : sorter.InRange := by decide
  have hroots : (Scope.roots [0]).InRange sorter := by decide
  have hgraph : sorter.reduce? (.roots [0]) {} { byType := true } = some sorterGraph := by decide +kernel
  obtain ⟨g, hreduce, hfiltered⟩ := filter_restricts hin (.roots [0]) hroots { omitStd := true } { byType := true }
  obtain rfl : g = sorterGraph := Option.some.inj (hreduce.symm.trans hgraph)
  exact ⟨hin, hroots, hgraph, _, hfiltered, by decide +kernel, by decide +kernel⟩

/-! ## Without the calls that are not eligible -/

/-- a program with the calls that a scope asks for, and no others -/
def trimmed (p : Program) (scope : Scope) : Program :=
  { p with calls := p.eligibleCalls scope }

theorem sameFunctions_trimmed (p : Program) (scope : Scope) : SameFunctions p (p.trimmed scope) :=
  ⟨rfl, rfl, rfl, rfl⟩

theorem InRange.trimmed (h : p.InRange) (hs : scope.InRange p) : (p.trimmed scope).InRange :=
  { h with calls := fun c hc => h.calls c ((h.mem_eligibleCalls hs).1 hc).1 }

theorem InRange.hasCall_trimmed (h : p.InRange) (hs : scope.InRange p) (huv : p.HasCall u v)
    (hcovers : p.Covers u v scope) : (p.trimmed scope).HasCall u v := by
  obtain ⟨c, hc, rfl, rfl⟩ := huv
  exact ⟨c, (h.mem_eligibleCalls hs).2 ⟨hc, hcovers⟩, rfl, rfl⟩

/-- what a function reaches, it still reaches if the scope covers all calls on the way -/
theorem InRange.reaches_trimmed_of_source (h : p.InRange) (hs : scope.InRange p)
    (hcovers : ∀ u v, p.Reaches s u → p.HasCall u v → p.Covers u v scope) (hreach : p.Reaches s f) :
    (p.trimmed scope).Reaches s f := by
  induction hreach with
  | refl => exact ReflTransGen.refl
  | @tail u v hsu huv ih => exact ReflTransGen.tail ih (h.hasCall_trimmed hs huv (hcovers u v hsu huv))

/-- what reaches a function, still reaches it if the scope covers all calls on the way -/
theorem InRange.reaches_trimmed_of_target (h : p.InRange) (hs : scope.InRange p)
    (hcovers : ∀ u v, p.HasCall u v → p.Reaches v t → p.Covers u v scope) (hreach : p.Reaches f t) :
    (p.trimmed scope).Reaches f t := by
  induction hreach using ReflTransGen.head_induction_on with
  | refl => exact ReflTransGen.refl
  | @head u v huv hvt ih => exact ReflTransGen.head (h.hasCall_trimmed hs huv (hcovers u v huv hvt)) ih

/-- a scope covers after trimming what it covered before -/
theorem InRange.covers_trimmed (h : p.InRange) (hs : scope.InRange p) (hcovers : p.Covers u v scope) :
    (p.trimmed scope).Covers u v scope := by
  cases scope with
  | focus package =>
    -- a walk out of the package has callers that come from it, a walk into the package has callees that lead to it
    rcases hcovers with ⟨s, hdef, hreach⟩ | ⟨t, hdef, hreach⟩
    · have hway : ∀ x y, p.Reaches s x → p.HasCall x y → p.Covers x y (.focus package) :=
        fun x y hsx _ => Or.inl ⟨s, hdef, hsx⟩
      exact Or.inl ⟨s, hdef, h.reaches_trimmed_of_source hs hway hreach⟩
    · have hway : ∀ x y, p.HasCall x y → p.Reaches y t → p.Covers x y (.focus package) :=
        fun x y _ hyt => Or.inr ⟨t, hdef, hyt⟩
      exact Or.inr ⟨t, hdef, h.reaches_trimmed_of_target hs hway hreach⟩
  | roots functions =>
    obtain ⟨r, hr, hreach⟩ := hcovers
    have hway : ∀ x y, p.Reaches r x → p.HasCall x y → p.Covers x y (.roots functions) :=
      fun x y hrx _ => ⟨r, hr, hrx⟩
    exact ⟨r, hr, h.reaches_trimmed_of_source hs hway hreach⟩

theorem InRange.eligibleCalls_trimmed (h : p.InRange) (hs : scope.InRange p) :
    (p.trimmed scope).eligibleCalls scope = p.eligibleCalls scope := by
  classical
  rw [(h.trimmed hs).eligibleCalls_eq ((sameFunctions_trimmed p scope).scope_inRange (fun _ => Iff.rfl) hs)]
  apply List.filter_eq_self.2
  intro c hc
  exact decide_eq_true (h.covers_trimmed hs ((h.mem_eligibleCalls hs).1 hc).2)

/-- **Trimming is done once.** If a program is cut down to the calls that a scope asks for, the scope asks for all calls
that are left, and under every filter and grouping the graph is the same as before. -/
theorem trimmed_reduces_alike (h : p.InRange) (scope : Scope) (hs : scope.InRange p) :
    (p.trimmed scope).eligibleCalls scope = (p.trimmed scope).calls ∧
      ∀ filter grouping, ∃ g, p.reduce? scope filter grouping = some g ∧
        (p.trimmed scope).reduce? scope filter grouping = some g := by
  have helig : (p.trimmed scope).eligibleCalls scope = p.eligibleCalls scope := h.eligibleCalls_trimmed hs
  refine ⟨helig, fun filter grouping => ?_⟩
  obtain ⟨g, hreduce, -⟩ := h.exists_reduce? hs filter grouping
  have hsame : (p.trimmed scope).reduce? scope filter grouping = p.reduce? scope filter grouping :=
    (sameFunctions_trimmed p scope).reduce?_eq h (h.trimmed hs) hs rfl (fun _ => Iff.rfl) (.of_eq helig) filter grouping
  exact ⟨g, hreduce, hsame.trans hreduce⟩

/-- main calls work and side; work and step call each other, step calls out, and side calls out past them -/
def bypass : Program where
  packages := [⟨"app", "main"⟩, ⟨"work", "work"⟩, ⟨"lib", "lib"⟩]
  functions := [{ name := "main", package := 0 }, { name := "work", package := 1 }, { name := "step", package := 2 },
    { name := "out", package := 2 }, { name := "side", package := 2 }]
  calls := [{ caller := 0, callee := 4 }, { caller := 2, callee := 1 }, { caller := 0, callee := 1 },
    { caller := 1, callee := 2 }, { caller := 4, callee := 3 }, { caller := 2, callee := 3, kind := .defer }]

/-- of its six calls, the four on a way through work are left, and they make up the same graph -/
theorem trimmed_reduces_alike_bypass :
    bypass.InRange ∧ (Scope.focus 1).InRange bypass ∧ bypass.calls.length = 6 ∧
      (bypass.trimmed (.focus 1)).calls.length = 4 ∧
      (bypass.trimmed (.focus 1)).eligibleCalls (.focus 1) = (bypass.trimmed (.focus 1)).calls ∧
      ∃ g, bypass.reduce? (.focus 1) {} {} = some g ∧ (bypass.trimmed (.focus 1)).reduce? (.focus 1) {} {} = some g := by
  have hin : bypass.InRange := by decide
  have hfocus : (Scope.focus 1).InRange bypass := Scope.inRange_focus 1 bypass
  obtain ⟨helig, hsame⟩ := trimmed_reduces_alike hin (.focus 1) hfocus
  exact ⟨hin, hfocus, rfl, by decide +kernel, helig, hsame {} {}⟩

end Program

end CallAtlas
