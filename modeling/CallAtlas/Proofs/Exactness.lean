/-
The reduced graph is exact.

Under a focus and from roots, the graph holds what it should and nothing else, for every program whose ids exist, every
filter and every grouping. Filters and groupings do not take part in reachability.
- `focus_edges`: under a focus there is an edge from u to v exactly if u calls v, both are kept, and the call lies on
  a walk through the package. A call past the package has no edge, even between two functions that are shown.
- `focus_nodes`: under a focus a function is shown exactly if it is kept, leads to the package or comes from it, and
  takes part in a call.
- `roots_induced`: from roots the graph is the one induced by the functions that are kept and reached from a root.
- `reduced_once`: nodes and edges ascend, so none occurs twice, and an edge stands for all calls between its ends.
- `lookup_exact`: looking a function up finds its node, or nothing if it is not shown.
-/
import CallAtlas.Proofs.Reduction

namespace CallAtlas.Program

open Relation

variable {p : Program} {package : PackageId} {scope : Scope} {filter : Filter} {grouping : Grouping} {g : Graph}
  {f u v : FunctionId}

/-! ## Under a focus -/

/-- the ends of the eligible calls are the functions on either side of the package that take part in a call -/
theorem InRange.mem_ends_focus (h : p.InRange) :
    (∃ c ∈ p.eligibleCalls (.focus package), c.caller = f ∨ c.callee = f) ↔
      (p.LeadsTo package f ∨ p.ComesFrom package f) ∧ p.TakesPart f := by
  have helig : ∀ {c}, c ∈ p.eligibleCalls (.focus package) ↔
      c ∈ p.calls ∧ (p.ComesFrom package c.caller ∨ p.LeadsTo package c.callee) :=
    h.mem_eligibleCalls (Scope.inRange_focus package p)
  constructor
  · rintro ⟨c, hc, hcf⟩
    obtain ⟨hc, hcover⟩ := helig.1 hc
    have hcall : p.HasCall c.caller c.callee := ⟨c, hc, rfl, rfl⟩
    refine ⟨?_, c, hc, hcf⟩
    rcases hcf with rfl | rfl <;> rcases hcover with hfrom | hto
    · exact Or.inr hfrom
    · exact Or.inl (hto.head hcall)
    · exact Or.inr (hfrom.tail hcall)
    · exact Or.inl hto
  · rintro ⟨hside, d, hd, hdf⟩
    -- a function of the package is an end of any of its calls, any other of the next call on its way
    have hdef : p.DefinedIn package f → ∃ c ∈ p.eligibleCalls (.focus package), c.caller = f ∨ c.callee = f := by
      intro hdef
      rcases hdf with rfl | rfl
      · exact ⟨d, helig.2 ⟨hd, Or.inl ⟨_, hdef, ReflTransGen.refl⟩⟩, Or.inl rfl⟩
      · exact ⟨d, helig.2 ⟨hd, Or.inr ⟨_, hdef, ReflTransGen.refl⟩⟩, Or.inr rfl⟩
    rcases hside with ⟨s, hs, hfs⟩ | ⟨s, hs, hsf⟩
    · rcases ReflTransGen.cases_head hfs with rfl | ⟨x, ⟨c, hc, rfl, rfl⟩, hxs⟩
      · exact hdef hs
      · exact ⟨c, helig.2 ⟨hc, Or.inr ⟨s, hs, hxs⟩⟩, Or.inl rfl⟩
    · rcases ReflTransGen.cases_tail hsf with rfl | ⟨x, hsx, c, hc, rfl, rfl⟩
      · exact hdef hs
      · exact ⟨c, helig.2 ⟨hc, Or.inl ⟨s, hs, hsx⟩⟩, Or.inr rfl⟩

theorem InRange.hasNode_focus_iff (h : p.InRange) (hg : p.ReducesTo (.focus package) filter grouping g) :
    g.HasNode f ↔
      p.keeps? filter f = some true ∧ (p.LeadsTo package f ∨ p.ComesFrom package f) ∧ p.TakesPart f := by
  rw [hg.hasNode_iff, h.mem_ends_focus, and_comm]
  simp [Scope.shown]

/-- **Edges under a focus.** There is an edge from u to v exactly if u calls v, both are kept, and the call lies on a
walk that visits the package. A call past the package, from a function that only leads to it to one that only comes
from it, has no edge, and both functions are shown all the same if they are kept. -/
theorem focus_edges (h : p.InRange) (package : PackageId) (filter : Filter) (grouping : Grouping) :
    ∃ g, p.reduce? (.focus package) filter grouping = some g ∧
      (∀ u v, g.HasEdge u v ↔
        p.HasCall u v ∧ (p.keeps? filter u = some true ∧ p.keeps? filter v = some true) ∧
          ∃ w, p.IsWalk w ∧ [u, v] <:+: w ∧ ∃ s ∈ w, p.DefinedIn package s) ∧
      ∀ u v, p.HasCall u v → p.LeadsTo package u → ¬ p.ComesFrom package u → p.ComesFrom package v →
        ¬ p.LeadsTo package v →
          ¬ g.HasEdge u v ∧ (p.keeps? filter u = some true → g.HasNode u) ∧
            (p.keeps? filter v = some true → g.HasNode v) := by
  obtain ⟨g, hreduce, hg⟩ := h.exists_reduce? (Scope.inRange_focus package p) filter grouping
  have hedge : ∀ u v, g.HasEdge u v ↔ p.HasCall u v ∧ (p.ComesFrom package u ∨ p.LeadsTo package v) ∧
      p.keeps? filter u = some true ∧ p.keeps? filter v = some true :=
    fun u v => hg.hasEdge_iff_covers h (Scope.inRange_focus package p)
  refine ⟨g, hreduce, fun u v => ?_, fun u v huv hu hu' hv hv' => ⟨fun he => ?_, fun hk => ?_, fun hk => ?_⟩⟩
  · rw [hedge]
    refine and_congr_right fun huv => ?_
    rw [exists_walk_iff huv, and_comm]
  · rcases ((hedge u v).1 he).2.1 with hfrom | hto
    · exact hu' hfrom
    · exact hv' hto
  · exact (h.hasNode_focus_iff hg).2 ⟨hk, Or.inl hu, huv.caller_takesPart⟩
  · exact (h.hasNode_focus_iff hg).2 ⟨hk, Or.inr hv, huv.callee_takesPart⟩

/-- main calls step, step calls out, and main calls out past step; nobody calls alone -/
def relay : Program where
  packages := [⟨"app", "main"⟩, ⟨"mid", "mid"⟩, ⟨"lib", "lib"⟩]
  functions := [{ name := "main", package := 0 }, { name := "step", package := 1 }, { name := "out", package := 2 },
    { name := "alone", package := 2 }]
  calls := [{ caller := 0, callee := 1 }, { caller := 1, callee := 2 }, { caller := 0, callee := 2 }]

/-- the call past the focus has no edge, and both its ends are shown -/
theorem focus_edges_relay :
    relay.InRange ∧ ∃ g, relay.reduce? (.focus 1) {} {} = some g ∧ g.HasEdge 0 1 ∧ ¬ g.HasEdge 0 2 ∧ g.HasNode 0 ∧
      g.HasNode 2 := by
  have hin : relay.InRange := by decide
  obtain ⟨g, hreduce, hedge, hpast⟩ := focus_edges hin 1 {} {}
  have hmain : relay.LeadsTo 1 0 := hin.mem_ancestors.1 (by decide +kernel)
  have hmain' : ¬ relay.ComesFrom 1 0 := fun hfrom => absurd (hin.mem_descendants.2 hfrom) (by decide +kernel)
  have hout : relay.ComesFrom 1 2 := hin.mem_descendants.1 (by decide +kernel)
  have hout' : ¬ relay.LeadsTo 1 2 := fun hto => absurd (hin.mem_ancestors.2 hto) (by decide +kernel)
  obtain ⟨hnone, hnode, hnode'⟩ := hpast 0 2 (by decide) hmain hmain' hout hout'
  have hwalk : relay.IsWalk [0, 1] := List.isChain_cons_cons.2 ⟨by decide, List.isChain_singleton 1⟩
  have h01 : g.HasEdge 0 1 :=
    (hedge 0 1).2 ⟨by decide, by decide, [0, 1], hwalk, List.infix_rfl, 1, by decide, _, rfl, rfl⟩
  exact ⟨hin, g, hreduce, h01, hnone, hnode (by decide), hnode' (by decide)⟩

/-- **Nodes under a focus.** A function is shown exactly if it is kept, leads to the package or comes from it, and takes
part in a call. So the graph is empty exactly if there is no such function, as for a package that takes part in no
call. -/
theorem focus_nodes (h : p.InRange) (package : PackageId) (filter : Filter) (grouping : Grouping) :
    ∃ g, p.reduce? (.focus package) filter grouping = some g ∧
      (∀ f, g.HasNode f ↔
        p.keeps? filter f = some true ∧ (p.LeadsTo package f ∨ p.ComesFrom package f) ∧ p.TakesPart f) ∧
      (g.isEmpty = true ↔
        ∀ f, p.keeps? filter f = some true → p.LeadsTo package f ∨ p.ComesFrom package f → ¬ p.TakesPart f) ∧
      (g.isEmpty = true → g.edges = []) ∧
      ((∀ s, p.DefinedIn package s → ¬ p.TakesPart s) → g.isEmpty = true) := by
  obtain ⟨g, hreduce, hg⟩ := h.exists_reduce? (Scope.inRange_focus package p) filter grouping
  have hnode : ∀ f, g.HasNode f ↔
      p.keeps? filter f = some true ∧ (p.LeadsTo package f ∨ p.ComesFrom package f) ∧ p.TakesPart f :=
    fun f => h.hasNode_focus_iff hg
  have hempty : g.isEmpty = true ↔
      ∀ f, p.keeps? filter f = some true → p.LeadsTo package f ∨ p.ComesFrom package f → ¬ p.TakesPart f := by
    simp only [Graph.isEmpty_iff, hnode, not_and]
  refine ⟨g, hreduce, hnode, hempty, hg.edges_eq_nil, fun hidle => hempty.2 fun f _ hside hf => ?_⟩
  -- no call leads into a package without calls or out of it
  rcases hside with ⟨s, hs, hfs⟩ | ⟨s, hs, hsf⟩
  · rcases ReflTransGen.cases_tail hfs with rfl | ⟨x, -, hxs⟩
    · exact hidle s hs hf
    · exact hidle s hs hxs.callee_takesPart
  · rcases ReflTransGen.cases_head hsf with rfl | ⟨x, hsx, -⟩
    · exact hidle s hs hf
    · exact hidle s hs hsx.caller_takesPart

/-- main and out are shown under a focus that is itself dropped, alone is not -/
theorem focus_nodes_relay :
    relay.InRange ∧ ∃ g, relay.reduce? (.focus 1) { ignore := ["mid"] } {} = some g ∧ g.HasNode 0 ∧ ¬ g.HasNode 1 ∧
      g.HasNode 2 ∧ ¬ g.HasNode 3 := by
  have hin : relay.InRange := by decide
  obtain ⟨g, hreduce, hnode, -⟩ := focus_nodes hin 1 { ignore := ["mid"] } {}
  refine ⟨hin, g, hreduce, ?_, fun h => ?_, ?_, fun h => ?_⟩
  · exact (hnode 0).2 ⟨by decide, Or.inl (hin.mem_ancestors.1 (by decide +kernel)), by decide⟩
  · exact absurd ((hnode 1).1 h).1 (by decide)
  · exact (hnode 2).2 ⟨by decide, Or.inr (hin.mem_descendants.1 (by decide +kernel)), by decide⟩
  · exact absurd ((hnode 3).1 h).2.2 (by decide)

/-! ## From roots -/

/-- a function is a root or an end of a call that a root reaches exactly if a root reaches it -/
theorem InRange.mem_ends_roots (h : p.InRange) {roots : List FunctionId} (hr : (Scope.roots roots).InRange p) :
    (f ∈ roots ∨ ∃ c ∈ p.eligibleCalls (.roots roots), c.caller = f ∨ c.callee = f) ↔
      ∃ r ∈ roots, p.Reaches r f := by
  have helig : ∀ {c}, c ∈ p.eligibleCalls (.roots roots) ↔ c ∈ p.calls ∧ ∃ r ∈ roots, p.Reaches r c.caller :=
    h.mem_eligibleCalls hr
  constructor
  · rintro (hf | ⟨c, hc, hcf⟩)
    · exact ⟨f, hf, ReflTransGen.refl⟩
    · obtain ⟨hc, r, hroot, hreach⟩ := helig.1 hc
      rcases hcf with rfl | rfl
      · exact ⟨r, hroot, hreach⟩
      · exact ⟨r, hroot, ReflTransGen.tail hreach ⟨c, hc, rfl, rfl⟩⟩
  · rintro ⟨r, hroot, hreach⟩
    rcases ReflTransGen.cases_tail hreach with rfl | ⟨x, hrx, c, hc, rfl, rfl⟩
    · exact Or.inl hroot
    · exact Or.inr ⟨c, helig.2 ⟨hc, r, hroot, hrx⟩, Or.inr rfl⟩

/-- **The graph from roots is induced.** A function is shown exactly if a root reaches it, through functions that may
themselves be dropped, and the filter keeps it. Between two functions that are shown there is an edge exactly if one
calls the other. -/
theorem roots_induced (h : p.InRange) (roots : List FunctionId) (hr : ∀ r ∈ roots, r < p.functions.length)
    (filter : Filter) (grouping : Grouping) :
    ∃ g, p.reduce? (.roots roots) filter grouping = some g ∧
      (∀ f, g.HasNode f ↔ (∃ r ∈ roots, p.Reaches r f) ∧ p.keeps? filter f = some true) ∧
      ∀ u v, g.HasEdge u v ↔ (g.HasNode u ∧ g.HasNode v) ∧ p.HasCall u v := by
  have hs : (Scope.roots roots).InRange p := hr
  obtain ⟨g, hreduce, hg⟩ := h.exists_reduce? hs filter grouping
  have hnode : ∀ f, g.HasNode f ↔ (∃ r ∈ roots, p.Reaches r f) ∧ p.keeps? filter f = some true := by
    intro f
    rw [hg.hasNode_iff, ← h.mem_ends_roots hs, Scope.shown]
  have hedge : ∀ u v, g.HasEdge u v ↔ p.HasCall u v ∧ (∃ r ∈ roots, p.Reaches r u) ∧
      p.keeps? filter u = some true ∧ p.keeps? filter v = some true :=
    fun u v => hg.hasEdge_iff_covers h hs
  refine ⟨g, hreduce, hnode, fun u v => ⟨fun he => ?_, fun ⟨⟨hu, hv⟩, huv⟩ => ?_⟩⟩
  · exact ⟨hg.hasNode_of_hasEdge he, ((hedge u v).1 he).1⟩
  · obtain ⟨hreach, hu⟩ := (hnode u).1 hu
    obtain ⟨-, hv⟩ := (hnode v).1 hv
    exact (hedge u v).2 ⟨huv, hreach, hu, hv⟩

/-- out is reached through a function that is dropped, and alone is shown as a root -/
theorem roots_induced_relay :
    relay.InRange ∧ (∀ r ∈ [0, 3], r < relay.functions.length) ∧
      ∃ g, relay.reduce? (.roots [0, 3]) { ignore := ["mid"] } {} = some g ∧ ¬ g.HasNode 1 ∧ g.HasNode 3 ∧
        g.HasEdge 0 2 := by
  have hin : relay.InRange := by decide
  have hroots : ∀ r ∈ [0, 3], r < relay.functions.length := by decide
  obtain ⟨g, hreduce, hnode, hedge⟩ := roots_induced hin [0, 3] hroots { ignore := ["mid"] } {}
  have hmain : g.HasNode 0 := (hnode 0).2 ⟨⟨0, by decide, ReflTransGen.refl⟩, by decide⟩
  have hout : g.HasNode 2 := (hnode 2).2 ⟨⟨0, by decide, ReflTransGen.single (by decide)⟩, by decide⟩
  have halone : g.HasNode 3 := (hnode 3).2 ⟨⟨3, by decide, ReflTransGen.refl⟩, by decide⟩
  refine ⟨hin, hroots, g, hreduce, fun h => ?_, halone, (hedge 0 2).2 ⟨⟨hmain, hout⟩, by decide⟩⟩
  exact absurd ((hnode 1).1 h).2 (by decide)

/-! ## Calls between the same functions -/

/-- each function is shown once, and one edge stands for all calls between two functions -/
structure ShownOnce (p : Program) (scope : Scope) (filter : Filter) (g : Graph) : Prop where
  nodes_ascend : (g.nodes.map Node.id).Pairwise (· < ·)
  nodes_nodup : (g.nodes.map Node.id).Nodup
  edges_ascend : (g.edges.map Edge.ends).Pairwise fun a b => a.1 < b.1 ∨ a.1 = b.1 ∧ a.2 < b.2
  edges_nodup : (g.edges.map Edge.ends).Nodup
  ends_shown : ∀ e ∈ g.edges, g.HasNode e.caller ∧ g.HasNode e.callee
  /-- the kinds of all calls of the program between the ends, each once -/
  kinds : ∀ e ∈ g.edges, e.kinds.Nodup ∧
    ∀ k, k ∈ e.kinds ↔ ∃ c ∈ p.calls, c.caller = e.caller ∧ c.callee = e.callee ∧ c.kind = k
  /-- the number of all calls of the program between the ends -/
  sites : ∀ e ∈ g.edges, e.sites = p.calls.countP fun c => c.caller = e.caller ∧ c.callee = e.callee
  /-- the balance over all edges -/
  total : (g.edges.map Edge.sites).sum =
    (p.eligibleCalls scope).countP fun c => p.keeps? filter c.caller = some true ∧ p.keeps? filter c.callee = some true

/-- **Nothing is shown twice, and no call is lost.** Under every scope, nodes and edges of the graph ascend, an edge
joins two nodes and has the kinds and the number of all calls between them, and the edges together count each eligible
call with both ends kept once. -/
theorem reduced_once (h : p.InRange) (scope : Scope) (hs : scope.InRange p) (filter : Filter) (grouping : Grouping) :
    ∃ g, p.reduce? scope filter grouping = some g ∧ p.ShownOnce scope filter g := by
  obtain ⟨g, hreduce, hg⟩ := h.exists_reduce? hs filter grouping
  have hedges := hg.collapsed
  have hsums : ∀ e ∈ g.edges, e.Sums p.calls := fun e he => hg.sums h hs he
  refine ⟨g, hreduce, ?_⟩
  constructor
  case nodes_ascend => exact hg.sorted_ids.imp of_decide_eq_true
  case nodes_nodup => exact hg.sorted_ids.nodup Ordered.isOrder_nat
  case edges_ascend => exact hedges.sorted.imp Edge.endsBefore_iff.1
  case edges_nodup => exact hedges.sorted.nodup Edge.isOrder_ends
  case ends_shown =>
    intro e he
    exact hg.hasNode_of_hasEdge ⟨e, he, rfl, rfl⟩
  case kinds =>
    intro e he
    refine ⟨(hsums e he).sorted.nodup CallKind.isOrder_before, fun k => ?_⟩
    simp only [(hsums e he).mem_kinds, Call.ends, Edge.ends, Prod.mk.injEq, and_assoc]
  case sites =>
    intro e he
    simp only [(hsums e he).sites, Call.ends, Edge.ends, Prod.mk.injEq]
  case total =>
    rw [hedges.total, keptCalls, ← List.countP_eq_length_filter]
    simp only [keepsCall?_eq_some_true]

/-- a calls b, b calls a back, and a calls b again -/
def pingPong : Program where
  packages := [⟨"app", "main"⟩]
  functions := [{ name := "a", package := 0 }, { name := "b", package := 0 }]
  calls := [{ caller := 0, callee := 1 }, { caller := 1, callee := 0 }, { caller := 0, callee := 1, kind := .dynamic }]

/-- the two calls from a to b are one edge, and the edges count three calls -/
theorem reduced_once_pingPong :
    pingPong.InRange ∧ (Scope.roots [0]).InRange pingPong ∧
      ∃ g, pingPong.reduce? (.roots [0]) {} {} = some g ∧ pingPong.ShownOnce (.roots [0]) {} g ∧
        (g.edges.map Edge.sites).sum = 3 := by
  have hin : pingPong.InRange := by decide
  have hroots : (Scope.roots [0]).InRange pingPong := by decide
  obtain ⟨g, hreduce, honce⟩ := reduced_once hin (.roots [0]) hroots {} {}
  exact ⟨hin, hroots, g, hreduce, honce, honce.total.trans (by decide +kernel)⟩

/-! ## Looking functions up -/

/-- **Looking up is exact.** In the graph of every scope, an id leads to the node that has it, and to nothing exactly if
no node has it; the graph contains the functions that have a node. -/
theorem lookup_exact (h : p.InRange) (scope : Scope) (hs : scope.InRange p) (filter : Filter) (grouping : Grouping) :
    ∃ g, p.reduce? scope filter grouping = some g ∧ ∀ f,
      (∀ n, g.node? f = some n ↔ n ∈ g.nodes ∧ n.id = f) ∧
      (g.node? f = none ↔ ∀ n ∈ g.nodes, n.id ≠ f) ∧
      (g.contains f = true ↔ f ∈ g.nodes.map Node.id) := by
  obtain ⟨g, hreduce, hg⟩ := h.exists_reduce? hs filter grouping
  refine ⟨g, hreduce, fun f => ⟨fun n => hg.node?_eq_some_iff, ?_, ?_⟩⟩
  · rw [Option.eq_none_iff_forall_ne_some]
    constructor
    · intro hnone n hn hid
      exact hnone n (hg.node?_eq_some_iff.2 ⟨hn, hid⟩)
    · intro hother n hn
      obtain ⟨hmem, hid⟩ := hg.node?_eq_some_iff.1 hn
      exact hother n hmem hid
  · rw [Graph.contains, Option.isSome_iff_exists, List.mem_map]
    exact exists_congr fun n => hg.node?_eq_some_iff

/-- the function that is dropped stands between two that are found -/
theorem lookup_exact_relay :
    relay.InRange ∧ (Scope.roots [0, 3]).InRange relay ∧
      ∃ g, relay.reduce? (.roots [0, 3]) { ignore := ["mid"] } {} = some g ∧ g.node? 2 = some ⟨2, []⟩ ∧
        g.node? 1 = none ∧ g.contains 3 = true := by
  have hin : relay.InRange := by decide
  have hroots : (Scope.roots [0, 3]).InRange relay := by decide
  obtain ⟨g, hreduce, hlookup⟩ := lookup_exact hin (.roots [0, 3]) hroots { ignore := ["mid"] } {}
  have hnodes : g.nodes = [⟨0, []⟩, ⟨2, []⟩, ⟨3, []⟩] := by
    have heval : (relay.reduce? (.roots [0, 3]) { ignore := ["mid"] } {}).map Graph.nodes =
        some [⟨0, []⟩, ⟨2, []⟩, ⟨3, []⟩] := by decide +kernel
    rw [hreduce] at heval
    exact Option.some.inj heval
  refine ⟨hin, hroots, g, hreduce, ?_, ?_, ?_⟩
  · exact ((hlookup 2).1 _).2 (by simp [hnodes])
  · exact (hlookup 1).2.1.2 (by simp [hnodes])
  · exact (hlookup 3).2.2.2 (by simp [hnodes])

end CallAtlas.Program
