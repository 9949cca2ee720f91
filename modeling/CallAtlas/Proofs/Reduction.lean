/-
What `reduce?` gives.

`ReducesTo` says what each step leaves in the graph: the scope's package, the candidates that the filter keeps, their
cluster keys, and the edges of the eligible calls that the filter keeps at both ends. `exists_reduce?` says that
`reduce?` gives such a graph whenever all ids exist. Everything else about a reduced graph is read off it:
- `hasNode_iff`, `hasEdge_iff`: which functions are shown, and between which of them there is an edge;
- `sorted_ids`, `node?_eq_some_iff`: the nodes ascend, so they are found by halving;
- `collapsed`: the edges sum up the eligible calls that are kept;
- `sums`: each single edge sums up all calls of the program between its ends.
-/
import Mathlib.Data.List.Forall2
import CallAtlas.Proofs.CallGraph
import CallAtlas.Proofs.Collapse

namespace CallAtlas

/-! ## Nodes and edges of a graph -/

namespace Graph

/-- a function is shown -/
def HasNode (g : Graph) (f : FunctionId) : Prop :=
  ∃ n ∈ g.nodes, n.id = f

/-- there is an edge from u to v -/
def HasEdge (g : Graph) (u v : FunctionId) : Prop :=
  ∃ e ∈ g.edges, e.caller = u ∧ e.callee = v

theorem hasNode_iff_mem_ids {g : Graph} {f : FunctionId} : g.HasNode f ↔ f ∈ g.nodes.map Node.id := by
  simp [HasNode]

theorem hasEdge_iff_mem_ends {g : Graph} {u v : FunctionId} : g.HasEdge u v ↔ (u, v) ∈ g.edges.map Edge.ends := by
  simp [HasEdge, Edge.ends]

theorem isEmpty_iff {g : Graph} : g.isEmpty = true ↔ ∀ f, ¬ g.HasNode f := by
  simp [isEmpty, HasNode, List.eq_nil_iff_forall_not_mem]

/-! ### Clusters -/

section Clusters

variable {g : Graph} {key : ClusterKey} {f : FunctionId}

theorem mem_clusters {members : List FunctionId} :
    (key, members) ∈ g.clusters ↔ (∃ n ∈ g.nodes, key ∈ n.clusters) ∧ members = g.members key := by
  simp only [Graph.clusters, List.mem_map, Ordered.mem_ofList ClusterKey.isOrder_before, List.mem_flatMap]
  constructor
  · rintro ⟨key, hkey, heq⟩
    cases heq
    exact ⟨hkey, rfl⟩
  · rintro ⟨hkey, rfl⟩
    exact ⟨key, hkey, rfl⟩

theorem map_fst_clusters (g : Graph) :
    g.clusters.map Prod.fst = Ordered.ofList ClusterKey.before (g.nodes.flatMap Node.clusters) := by
  simp [Graph.clusters, Function.comp_def]

theorem sorted_clusters (g : Graph) : Ordered.Sorted ClusterKey.before (g.clusters.map Prod.fst) := by
  rw [map_fst_clusters]
  exact Ordered.sorted_ofList ClusterKey.isOrder_before _

theorem nodup_clusters (g : Graph) : (g.clusters.map Prod.fst).Nodup :=
  g.sorted_clusters.nodup ClusterKey.isOrder_before

theorem mem_members : f ∈ g.members key ↔ ∃ n ∈ g.nodes, key ∈ n.clusters ∧ n.id = f := by
  simp [Graph.members, and_assoc]

theorem hasNode_of_mem_clusters {c : ClusterKey × List FunctionId} (hc : c ∈ g.clusters) (hf : f ∈ c.2) :
    g.HasNode f := by
  obtain ⟨key, members⟩ := c
  obtain ⟨-, rfl⟩ := mem_clusters.1 hc
  obtain ⟨n, hn, -, hid⟩ := mem_members.1 hf
  exact ⟨n, hn, hid⟩

end Clusters

end Graph

/-- a map that fails on no element of a list gives the list of its values -/
theorem mapM_eq_some_map {α β : Type} {f : α → Option β} {g : α → β} {xs : List α} (h : ∀ x ∈ xs, f x = some (g x)) :
    xs.mapM f = some (xs.map g) := by
  induction xs with
  | nil => rfl
  | cons x r ih =>
    obtain ⟨hx, hr⟩ := List.forall_mem_cons.1 h
    simp [hx, ih hr]

/-- a map that fails on no element of a list gives a list, element by element -/
theorem exists_mapM {α β : Type} {f : α → Option β} {R : α → β → Prop} {xs : List α}
    (h : ∀ x ∈ xs, ∃ y, f x = some y ∧ R x y) : ∃ ys, xs.mapM f = some ys ∧ List.Forall₂ R xs ys := by
  induction xs with
  | nil => exact ⟨[], rfl, List.Forall₂.nil⟩
  | cons x xs ih =>
    obtain ⟨⟨y, hy, hR⟩, hxs⟩ := List.forall_mem_cons.1 h
    obtain ⟨ys, hys, hall⟩ := ih hxs
    exact ⟨y :: ys, by simp [hy, hys], List.Forall₂.cons hR hall⟩

/-- the list that a map gives is made of its values -/
theorem forall₂_of_mapM {α β : Type} {f : α → Option β} {xs : List α} {ys : List β} (h : xs.mapM f = some ys) :
    List.Forall₂ (fun x y => f x = some y) xs ys := by
  induction xs generalizing ys with
  | nil =>
    cases h
    exact List.Forall₂.nil
  | cons x xs ih =>
    simp only [List.mapM_cons, Option.bind_eq_bind, Option.bind_eq_some_iff, Option.pure_def, Option.some.injEq] at h
    obtain ⟨y, hy, ys', hys, rfl⟩ := h
    exact List.Forall₂.cons hy (ih hys)

theorem exists_of_forall₂ {α β : Type} {R : α → β → Prop} {as : List α} {bs : List β} (h : List.Forall₂ R as bs) {b : β}
    (hb : b ∈ bs) : ∃ a ∈ as, R a b := by
  induction h with
  | nil => cases hb
  | cons hab _ ih =>
    rcases List.mem_cons.1 hb with rfl | hb
    · exact ⟨_, List.mem_cons_self, hab⟩
    · obtain ⟨a, ha, hR⟩ := ih hb
      exact ⟨a, List.mem_cons_of_mem _ ha, hR⟩

namespace Program

/-! ## Candidates -/

section Candidates

variable {p : Program} {scope : Scope} {calls : List Call} {f : FunctionId}

theorem mem_candidates :
    f ∈ candidates scope calls ↔ f ∈ scope.shown ∨ ∃ c ∈ calls, c.caller = f ∨ c.callee = f := by
  simp [candidates, Ordered.mem_ofList Ordered.isOrder_nat, eq_comm]

/-- the candidates depend on which functions are shown or take part, and not on the order of the calls -/
theorem candidates_congr {scope' : Scope} {calls' : List Call} (hshown : ∀ f, f ∈ scope'.shown ↔ f ∈ scope.shown)
    (hends : ∀ f, (∃ c ∈ calls', c.caller = f ∨ c.callee = f) ↔ ∃ c ∈ calls, c.caller = f ∨ c.callee = f) :
    candidates scope' calls' = candidates scope calls := by
  apply Ordered.Sorted.eq_of_mem_iff Ordered.isOrder_nat (Ordered.sorted_ofList Ordered.isOrder_nat _)
    (Ordered.sorted_ofList Ordered.isOrder_nat _)
  intro f
  change f ∈ candidates scope' calls' ↔ f ∈ candidates scope calls
  rw [mem_candidates, mem_candidates, hshown f, hends f]

theorem InRange.lt_of_mem_candidates (h : p.InRange) (hs : scope.InRange p)
    (hf : f ∈ candidates scope (p.eligibleCalls scope)) : f < p.functions.length := by
  rcases mem_candidates.1 hf with hf | ⟨c, hc, hcf⟩
  · exact hs f hf
  · obtain ⟨hcaller, hcallee⟩ := h.calls c ((h.mem_eligibleCalls hs).1 hc).1
    rcases hcf with rfl | rfl
    · exact hcaller
    · exact hcallee

end Candidates

/-! ## The four steps -/

/-- the candidates that the filter keeps -/
def keptCandidates (p : Program) (scope : Scope) (filter : Filter) : List FunctionId :=
  (candidates scope (p.eligibleCalls scope)).filter fun f => p.keeps? filter f = some true

/-- the eligible calls that the filter keeps at both ends -/
def keptCalls (p : Program) (scope : Scope) (filter : Filter) : List Call :=
  (p.eligibleCalls scope).filter fun c => p.keepsCall? filter c = some true

section Steps

variable {p : Program} {scope : Scope} {filter : Filter}

theorem keepsCall?_eq_some_true {c : Call} :
    p.keepsCall? filter c = some true ↔ p.keeps? filter c.caller = some true ∧ p.keeps? filter c.callee = some true := by
  unfold keepsCall?
  cases p.keeps? filter c.caller with
  | none => simp
  | some b => cases b <;> simp

theorem InRange.mem_keptCalls (h : p.InRange) (hs : scope.InRange p) {c : Call} :
    c ∈ p.keptCalls scope filter ↔
      c ∈ p.calls ∧ p.Covers c.caller c.callee scope ∧
        p.keeps? filter c.caller = some true ∧ p.keeps? filter c.callee = some true := by
  rw [keptCalls, List.mem_filter, decide_eq_true_iff, keepsCall?_eq_some_true, h.mem_eligibleCalls hs, and_assoc]

/-- of the calls between the same two functions all are kept or none is -/
theorem InRange.mem_keptCalls_of_ends (h : p.InRange) (hs : scope.InRange p) {c d : Call}
    (hc : c ∈ p.keptCalls scope filter) (hd : d ∈ p.calls) (hcd : c.ends = d.ends) : d ∈ p.keptCalls scope filter := by
  obtain ⟨hcaller, hcallee⟩ := Prod.mk.inj hcd
  obtain ⟨-, hends⟩ := (h.mem_keptCalls hs).1 hc
  rw [hcaller, hcallee] at hends
  exact (h.mem_keptCalls hs).2 ⟨hd, hends⟩

/-- so an edge that sums up the kept calls sums up all calls of the program -/
theorem InRange.sums_calls (h : p.InRange) (hs : scope.InRange p) {e : Edge}
    (he : e.Sums (p.keptCalls scope filter)) (hends : e.ends ∈ (p.keptCalls scope filter).map Call.ends) :
    e.Sums p.calls := by
  obtain ⟨c, hc, hce⟩ := List.mem_map.1 hends
  have hall : ∀ d ∈ p.calls, d.ends = e.ends → d ∈ p.keptCalls scope filter :=
    fun d hd hde => h.mem_keptCalls_of_ends hs hc hd (hce.trans hde.symm)
  refine ⟨he.sorted, fun k => ?_, ?_⟩
  · rw [he.mem_kinds]
    constructor
    · rintro ⟨d, hd, hde, hk⟩
      exact ⟨d, ((h.mem_keptCalls hs).1 hd).1, hde, hk⟩
    · rintro ⟨d, hd, hde, hk⟩
      exact ⟨d, hall d hd hde, hde, hk⟩
  · classical
    rw [he.sites, keptCalls, h.eligibleCalls_eq hs, List.filter_filter, List.countP_filter]
    refine List.countP_congr fun d hd => ?_
    simp only [Bool.and_eq_true, decide_eq_true_iff]
    refine and_iff_left_of_imp fun hde => ?_
    obtain ⟨-, hcovers, hkeeps⟩ := (h.mem_keptCalls hs).1 (hall d hd hde)
    exact ⟨keepsCall?_eq_some_true.2 hkeeps, hcovers⟩

/-- the filter decides on every candidate -/
theorem InRange.mapM_keeps? (h : p.InRange) (hs : scope.InRange p) (filter : Filter) :
    ((candidates scope (p.eligibleCalls scope)).mapM fun f => (p.keeps? filter f).map (f, ·)) =
      some ((candidates scope (p.eligibleCalls scope)).map fun f => (f, decide (p.keeps? filter f = some true))) := by
  refine mapM_eq_some_map fun f hf => ?_
  obtain ⟨b, hb⟩ := h.exists_keeps? filter (h.lt_of_mem_candidates hs hf)
  simp [hb]

/-- every candidate that is kept gets its keys -/
theorem InRange.mapM_clusterKeys? (h : p.InRange) (hs : scope.InRange p) (grouping : Grouping) :
    ((p.keptCandidates scope filter).mapM fun f => (p.clusterKeys? grouping f).map (Node.mk f)) =
      some ((p.keptCandidates scope filter).map fun f => ⟨f, (p.clusterKeys? grouping f).getD []⟩) := by
  refine mapM_eq_some_map fun f hf => ?_
  obtain ⟨keys, hkeys⟩ := h.exists_clusterKeys? grouping (h.lt_of_mem_candidates hs (List.mem_of_mem_filter hf))
  simp [hkeys]

/-- the ends of an eligible call are candidates, so it has both ends kept exactly if the filter keeps it -/
theorem filter_keptCandidates :
    ((p.eligibleCalls scope).filter fun c =>
      (p.keptCandidates scope filter).contains c.caller && (p.keptCandidates scope filter).contains c.callee) =
      p.keptCalls scope filter := by
  refine List.filter_congr fun c hc => ?_
  have hcaller : c.caller ∈ candidates scope (p.eligibleCalls scope) :=
    mem_candidates.2 (Or.inr ⟨c, hc, Or.inl rfl⟩)
  have hcallee : c.callee ∈ candidates scope (p.eligibleCalls scope) :=
    mem_candidates.2 (Or.inr ⟨c, hc, Or.inr rfl⟩)
  simp [keptCandidates, hcaller, hcallee, keepsCall?_eq_some_true]

theorem InRange.reduce?_eq (h : p.InRange) (hs : scope.InRange p) (filter : Filter) (grouping : Grouping) :
    p.reduce? scope filter grouping =
      some
        { focus := scope.focus?
          nodes := (p.keptCandidates scope filter).map fun f => ⟨f, (p.clusterKeys? grouping f).getD []⟩
          edges := edgesOf (p.keptCalls scope filter) } := by
  have hids : (p.calls.all p.hasEnds && scope.shown.all (· < p.functions.length)) = true := by
    simpa [hasEnds] using ⟨h.calls, hs⟩
  have hkept : (((candidates scope (p.eligibleCalls scope)).map fun f =>
      (f, decide (p.keeps? filter f = some true))).filter Prod.snd).map Prod.fst = p.keptCandidates scope filter := by
    simp [List.filter_map, keptCandidates, Function.comp_def]
  rw [reduce?, if_pos hids]
  simp only [h.mapM_keeps? hs, Option.bind_eq_bind, Option.bind_some, hkept, h.mapM_clusterKeys? hs,
    filter_keptCandidates]

end Steps

/-- what the steps of the reduction leave in the graph -/
structure ReducesTo (p : Program) (scope : Scope) (filter : Filter) (grouping : Grouping) (g : Graph) : Prop where
  focus : g.focus = scope.focus?
  ids : g.nodes.map Node.id = p.keptCandidates scope filter
  clusters : ∀ n ∈ g.nodes, p.clusterKeys? grouping n.id = some n.clusters
  edges : g.edges = edgesOf (p.keptCalls scope filter)

/-- **The reduction gives a graph.** If all ids of the program and the roots exist, no step fails. -/
theorem InRange.exists_reduce? {p : Program} {scope : Scope} (h : p.InRange) (hs : scope.InRange p) (filter : Filter)
    (grouping : Grouping) :
    ∃ g, p.reduce? scope filter grouping = some g ∧ p.ReducesTo scope filter grouping g := by
  refine ⟨_, h.reduce?_eq hs filter grouping, rfl, by simp [Function.comp_def], ?_, rfl⟩
  intro n hn
  obtain ⟨f, hf, rfl⟩ := List.mem_map.1 hn
  obtain ⟨keys, hkeys⟩ := h.exists_clusterKeys? grouping (h.lt_of_mem_candidates hs (List.mem_of_mem_filter hf))
  rw [hkeys, Option.getD_some]

/-- a graph is made only if the roots exist -/
theorem scope_inRange_of_reduce? {p : Program} {scope : Scope} {filter : Filter} {grouping : Grouping} {g : Graph}
    (hg : p.reduce? scope filter grouping = some g) : scope.InRange p := by
  unfold reduce? at hg
  split at hg
  next hids =>
    simp only [Bool.and_eq_true, List.all_eq_true, decide_eq_true_iff] at hids
    exact hids.2
  next => cases hg

/-- the graph that is made is what the steps leave -/
theorem InRange.reducesTo {p : Program} {scope : Scope} {filter : Filter} {grouping : Grouping} {g : Graph}
    (h : p.InRange) (hg : p.reduce? scope filter grouping = some g) : p.ReducesTo scope filter grouping g := by
  obtain ⟨g', hreduce, hg'⟩ := h.exists_reduce? (scope_inRange_of_reduce? hg) filter grouping
  rwa [Option.some.inj (hg.symm.trans hreduce)]

/-! ## Nodes and edges of a reduced graph -/

namespace ReducesTo

variable {p : Program} {scope : Scope} {filter : Filter} {grouping : Grouping} {g : Graph} {f u v : FunctionId}

theorem sorted_ids (hg : p.ReducesTo scope filter grouping g) :
    Ordered.Sorted Ordered.natBefore (g.nodes.map Node.id) := by
  rw [hg.ids]
  exact List.Pairwise.filter _ (Ordered.sorted_ofList Ordered.isOrder_nat _)

/-- since nodes ascend, halving finds the node of a function if there is one -/
theorem node?_eq_some_iff (hg : p.ReducesTo scope filter grouping g) {n : Node} :
    g.node? f = some n ↔ n ∈ g.nodes ∧ n.id = f := by
  simp only [Graph.node?, Option.bind_eq_some_iff, Ordered.position?_eq_some_iff Ordered.isOrder_nat hg.sorted_ids]
  constructor
  · rintro ⟨i, ⟨m, hm, hid⟩, hn⟩
    obtain rfl := Option.some.inj (hm.symm.trans hn)
    exact ⟨List.mem_of_getElem? hn, hid⟩
  · rintro ⟨hn, hid⟩
    obtain ⟨i, hi⟩ := List.getElem?_of_mem hn
    exact ⟨i, ⟨n, hi, hid⟩, hi⟩

theorem collapsed (hg : p.ReducesTo scope filter grouping g) : Collapsed (p.keptCalls scope filter) g.edges :=
  hg.edges ▸ collapsed_edgesOf _

theorem hasNode_iff (hg : p.ReducesTo scope filter grouping g) :
    g.HasNode f ↔
      (f ∈ scope.shown ∨ ∃ c ∈ p.eligibleCalls scope, c.caller = f ∨ c.callee = f) ∧ p.keeps? filter f = some true := by
  rw [Graph.hasNode_iff_mem_ids, hg.ids, keptCandidates, List.mem_filter, mem_candidates, decide_eq_true_iff]

theorem hasEdge_iff (hg : p.ReducesTo scope filter grouping g) :
    g.HasEdge u v ↔ ∃ c ∈ p.keptCalls scope filter, c.caller = u ∧ c.callee = v := by
  rw [Graph.hasEdge_iff_mem_ends, hg.collapsed.mem_ends]
  simp [Call.ends]

theorem lt_of_hasNode (hg : p.ReducesTo scope filter grouping g) (h : p.InRange) (hs : scope.InRange p)
    (hf : g.HasNode f) : f < p.functions.length := by
  rw [Graph.hasNode_iff_mem_ids, hg.ids, keptCandidates] at hf
  exact h.lt_of_mem_candidates hs (List.mem_of_mem_filter hf)

/-- an edge joins functions that are shown -/
theorem hasNode_of_hasEdge (hg : p.ReducesTo scope filter grouping g) (he : g.HasEdge u v) :
    g.HasNode u ∧ g.HasNode v := by
  obtain ⟨c, hc, rfl, rfl⟩ := hg.hasEdge_iff.1 he
  obtain ⟨hc, hkeep⟩ := List.mem_filter.1 hc
  obtain ⟨hcaller, hcallee⟩ := keepsCall?_eq_some_true.1 (of_decide_eq_true hkeep)
  exact ⟨hg.hasNode_iff.2 ⟨Or.inr ⟨c, hc, Or.inl rfl⟩, hcaller⟩,
    hg.hasNode_iff.2 ⟨Or.inr ⟨c, hc, Or.inr rfl⟩, hcallee⟩⟩

theorem edges_eq_nil (hg : p.ReducesTo scope filter grouping g) (hempty : g.isEmpty = true) : g.edges = [] := by
  rw [List.eq_nil_iff_forall_not_mem]
  intro e he
  exact Graph.isEmpty_iff.1 hempty e.caller (hg.hasNode_of_hasEdge ⟨e, he, rfl, rfl⟩).1

/-- an edge for each pair of functions with calls that the scope covers and the filter keeps -/
theorem hasEdge_iff_covers (hg : p.ReducesTo scope filter grouping g) (h : p.InRange) (hs : scope.InRange p) :
    g.HasEdge u v ↔
      p.HasCall u v ∧ p.Covers u v scope ∧ p.keeps? filter u = some true ∧ p.keeps? filter v = some true := by
  rw [hg.hasEdge_iff]
  constructor
  · rintro ⟨c, hc, rfl, rfl⟩
    obtain ⟨hc, hrest⟩ := (h.mem_keptCalls hs).1 hc
    exact ⟨⟨c, hc, rfl, rfl⟩, hrest⟩
  · rintro ⟨⟨c, hc, rfl, rfl⟩, hrest⟩
    exact ⟨c, (h.mem_keptCalls hs).2 ⟨hc, hrest⟩, rfl, rfl⟩

/-- an edge has the kinds and the number of all calls of the program between its ends -/
theorem sums (hg : p.ReducesTo scope filter grouping g) (h : p.InRange) (hs : scope.InRange p) {e : Edge}
    (he : e ∈ g.edges) : e.Sums p.calls :=
  h.sums_calls hs (hg.collapsed.sums e he) ((hg.collapsed.mem_ends _).1 (List.mem_map_of_mem he))

end ReducesTo

end Program

end CallAtlas
