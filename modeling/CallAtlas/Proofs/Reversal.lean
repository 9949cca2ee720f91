/-
Calls turned round.

`Program.reversed` swaps the caller and the callee of every call. What came from a package then leads to it, and what
led to it comes from it. A focus asks for both, so it shows the same functions, and the same edges turned round.
- `edgesOf_reversed`: turning the calls round turns their edges round, with their kinds and call sites.
- `reversed_covers_iff`: a focus covers a call exactly if it covers the call turned round, in the program turned round.
- `focus_reversed`: so the two sides of a focus are treated alike.
-/
import CallAtlas.Proofs.SameFunctions

namespace CallAtlas

open Relation

/-! ## Calls and edges -/

/-- a call from its callee to its caller -/
def Call.reversed (c : Call) : Call :=
  { c with caller := c.callee, callee := c.caller }

/-- an edge from its callee to its caller -/
def Edge.reversed (e : Edge) : Edge :=
  { e with caller := e.callee, callee := e.caller }

@[simp] theorem Call.reversed_reversed (c : Call) : c.reversed.reversed = c := rfl

@[simp] theorem Edge.reversed_reversed (e : Edge) : e.reversed.reversed = e := rfl

@[simp] theorem Call.ends_reversed (c : Call) : c.reversed.ends = c.ends.swap := rfl

@[simp] theorem Edge.ends_reversed (e : Edge) : e.reversed.ends = e.ends.swap := rfl

theorem Edge.reversed_injective : Function.Injective Edge.reversed :=
  Function.LeftInverse.injective Edge.reversed_reversed

theorem map_reversed_map_reversed (calls : List Call) : (calls.map Call.reversed).map Call.reversed = calls := by
  have hid : Call.reversed ∘ Call.reversed = id := funext Call.reversed_reversed
  rw [List.map_map, hid, List.map_id]

section Edges

variable {calls : List Call} {e : Edge}

/-- an edge that sums up calls, turned round, sums up the calls turned round -/
theorem Edge.Sums.reversed (h : e.Sums calls) : e.reversed.Sums (calls.map Call.reversed) where
  sorted := h.sorted
  mem_kinds k := by
    have hends : ∀ c : Call, c.reversed.ends = e.reversed.ends ↔ c.ends = e.ends := by
      intro c
      rw [Call.ends_reversed, Edge.ends_reversed, Prod.swap_inj]
    change k ∈ e.kinds ↔ _
    rw [h.mem_kinds]
    constructor
    · rintro ⟨c, hc, hce, hk⟩
      exact ⟨c.reversed, List.mem_map_of_mem hc, (hends c).2 hce, hk⟩
    · rintro ⟨d, hd, hde, hk⟩
      obtain ⟨c, hc, rfl⟩ := List.mem_map.1 hd
      exact ⟨c, hc, (hends c).1 hde, hk⟩
  sites := by
    change e.sites = _
    rw [h.sites, List.countP_map]
    apply List.countP_congr
    intro c _
    simp [Prod.swap_inj]

theorem reversed_mem_edgesOf (he : e ∈ edgesOf calls) : e.reversed ∈ edgesOf (calls.map Call.reversed) := by
  obtain ⟨hends, hsums⟩ := mem_edgesOf.1 he
  obtain ⟨c, hc, hce⟩ := List.mem_map.1 hends
  have hmem : e.reversed.ends ∈ (calls.map Call.reversed).map Call.ends :=
    List.mem_map.2 ⟨c.reversed, List.mem_map_of_mem hc, congrArg Prod.swap hce⟩
  exact mem_edgesOf.2 ⟨hmem, hsums.reversed⟩

theorem nodup_edgesOf (calls : List Call) : (edgesOf calls).Nodup :=
  List.Nodup.of_map Edge.ends ((sorted_edgesOf calls).nodup Edge.isOrder_ends)

/-- **Edges turn round with their calls.** They come in another order then, and nothing else changes. -/
theorem edgesOf_reversed (calls : List Call) :
    (edgesOf (calls.map Call.reversed)).Perm ((edgesOf calls).map Edge.reversed) := by
  have hnodup : ((edgesOf calls).map Edge.reversed).Nodup := (nodup_edgesOf calls).map Edge.reversed_injective
  apply (List.perm_ext_iff_of_nodup (nodup_edgesOf _) hnodup).2
  intro e
  constructor
  · intro he
    have hback : e.reversed ∈ edgesOf calls := map_reversed_map_reversed calls ▸ reversed_mem_edgesOf he
    exact List.mem_map.2 ⟨e.reversed, hback, e.reversed_reversed⟩
  · intro he
    obtain ⟨e', he', rfl⟩ := List.mem_map.1 he
    exact reversed_mem_edgesOf he'

end Edges

namespace Program

/-! ## The program turned round -/

/-- a program in which every callee calls its callers -/
def reversed (p : Program) : Program :=
  { p with calls := p.calls.map Call.reversed }

variable {p : Program} {package : PackageId} {f u v : FunctionId}

theorem sameFunctions_reversed (p : Program) : SameFunctions p p.reversed :=
  ⟨rfl, rfl, rfl, rfl⟩

theorem InRange.reversed (h : p.InRange) : p.reversed.InRange :=
  { h with
    calls := by
      intro c hc
      obtain ⟨d, hd, rfl⟩ := List.mem_map.1 hc
      exact (h.calls d hd).symm }

theorem reversed_hasCall_iff : p.reversed.HasCall u v ↔ p.HasCall v u := by
  unfold HasCall
  constructor
  · rintro ⟨d, hd, rfl, rfl⟩
    obtain ⟨c, hc, rfl⟩ := List.mem_map.1 hd
    exact ⟨c, hc, rfl, rfl⟩
  · rintro ⟨c, hc, rfl, rfl⟩
    exact ⟨c.reversed, List.mem_map_of_mem hc, rfl, rfl⟩

theorem reversed_reaches_iff : p.reversed.Reaches u v ↔ p.Reaches v u := by
  have hswap : p.reversed.HasCall = Function.swap p.HasCall := by
    funext u v
    exact propext reversed_hasCall_iff
  unfold Reaches
  rw [hswap, reflTransGen_swap]

theorem reversed_comesFrom_iff : p.reversed.ComesFrom package f ↔ p.LeadsTo package f :=
  exists_congr fun _ => and_congr_right fun _ => reversed_reaches_iff

theorem reversed_leadsTo_iff : p.reversed.LeadsTo package f ↔ p.ComesFrom package f :=
  exists_congr fun _ => and_congr_right fun _ => reversed_reaches_iff

/-- a call from u to v, turned round, goes from v to u -/
theorem reversed_covers_iff :
    p.reversed.Covers v u (.focus package) ↔ p.Covers u v (.focus package) := by
  change p.reversed.ComesFrom package v ∨ p.reversed.LeadsTo package u ↔ p.ComesFrom package u ∨ p.LeadsTo package v
  rw [reversed_comesFrom_iff, reversed_leadsTo_iff, or_comm]

theorem InRange.eligibleCalls_reversed (h : p.InRange) :
    p.reversed.eligibleCalls (.focus package) = (p.eligibleCalls (.focus package)).map Call.reversed := by
  classical
  have hcovers : ∀ c ∈ p.calls, decide (p.reversed.Covers c.callee c.caller (.focus package)) =
      decide (p.Covers c.caller c.callee (.focus package)) :=
    fun c _ => decide_eq_decide.2 reversed_covers_iff
  calc p.reversed.eligibleCalls (.focus package)
      = (p.calls.map Call.reversed).filter fun c => p.reversed.Covers c.caller c.callee (.focus package) :=
        h.reversed.eligibleCalls_eq (Scope.inRange_focus package _)
    _ = (p.calls.filter fun c => p.reversed.Covers c.callee c.caller (.focus package)).map Call.reversed :=
        List.filter_map
    _ = (p.calls.filter fun c => p.Covers c.caller c.callee (.focus package)).map Call.reversed := by
        rw [List.filter_congr hcovers]
    _ = (p.eligibleCalls (.focus package)).map Call.reversed := by
        rw [h.eligibleCalls_eq (Scope.inRange_focus package _)]

/-! ## The graph turned round -/

section Reduced

variable {filter : Filter}

/-- the eligible calls have the same ends in both programs -/
theorem InRange.mem_ends_reversed (h : p.InRange) :
    (∃ c ∈ p.reversed.eligibleCalls (.focus package), c.caller = f ∨ c.callee = f) ↔
      ∃ c ∈ p.eligibleCalls (.focus package), c.caller = f ∨ c.callee = f := by
  rw [h.eligibleCalls_reversed]
  constructor
  · rintro ⟨d, hd, hdf⟩
    obtain ⟨c, hc, rfl⟩ := List.mem_map.1 hd
    exact ⟨c, hc, hdf.symm⟩
  · rintro ⟨c, hc, hcf⟩
    exact ⟨c.reversed, List.mem_map_of_mem hc, hcf.symm⟩

theorem keepsCall?_reversed (p : Program) (filter : Filter) (c : Call) :
    p.keepsCall? filter c.reversed = some true ↔ p.keepsCall? filter c = some true := by
  rw [keepsCall?_eq_some_true, keepsCall?_eq_some_true]
  exact and_comm

theorem InRange.keptCalls_reversed (h : p.InRange) :
    p.reversed.keptCalls (.focus package) filter = (p.keptCalls (.focus package) filter).map Call.reversed := by
  have hkeeps : ∀ c ∈ p.eligibleCalls (.focus package),
      decide (p.reversed.keepsCall? filter c.reversed = some true) = decide (p.keepsCall? filter c = some true) := by
    intro c _
    apply decide_eq_decide.2
    rw [(sameFunctions_reversed p).keepsCall?, keepsCall?_reversed]
  calc p.reversed.keptCalls (.focus package) filter
      = ((p.eligibleCalls (.focus package)).map Call.reversed).filter fun c =>
          p.reversed.keepsCall? filter c = some true := by rw [keptCalls, h.eligibleCalls_reversed]
    _ = ((p.eligibleCalls (.focus package)).filter fun c =>
          p.reversed.keepsCall? filter c.reversed = some true).map Call.reversed := List.filter_map
    _ = (p.keptCalls (.focus package) filter).map Call.reversed := by rw [List.filter_congr hkeeps, keptCalls]

end Reduced

/-- **A focus looks both ways alike.** If every call is turned round, the graph under a focus has the same nodes with the
same keys, and its edges are those from before turned round, with the same kinds and call sites. -/
theorem focus_reversed (h : p.InRange) (package : PackageId) (filter : Filter) (grouping : Grouping) :
    ∃ g g', p.reduce? (.focus package) filter grouping = some g ∧
      p.reversed.reduce? (.focus package) filter grouping = some g' ∧
      g'.focus = g.focus ∧ g'.nodes = g.nodes ∧ g'.edges.Perm (g.edges.map Edge.reversed) := by
  have hfocus : (Scope.focus package).InRange p := Scope.inRange_focus package p
  have hfocus' : (Scope.focus package).InRange p.reversed := Scope.inRange_focus package p.reversed
  have hsame : SameFunctions p p.reversed := sameFunctions_reversed p
  have hnodes : p.reversed.keptCandidates (.focus package) filter = p.keptCandidates (.focus package) filter :=
    hsame.keptCandidates (fun _ => Iff.rfl) (fun _ => h.mem_ends_reversed) filter
  refine ⟨_, _, h.reduce?_eq hfocus filter grouping, h.reversed.reduce?_eq hfocus' filter grouping, rfl, ?_, ?_⟩
  · simp only [hnodes, hsame.clusterKeys?]
  · rw [h.keptCalls_reversed]
    exact edgesOf_reversed _

/-- main calls work, work calls out, out calls itself, and main starts work and calls side -/
def fork : Program where
  packages := [⟨"app", "main"⟩, ⟨"work", "work"⟩, ⟨"lib", "lib"⟩]
  functions := [{ name := "main", package := 0 }, { name := "work", package := 1 }, { name := "out", package := 2 },
    { name := "side", package := 2 }]
  calls := [{ caller := 0, callee := 1 }, { caller := 1, callee := 2 }, { caller := 2, callee := 2 },
    { caller := 0, callee := 1, kind := .go }, { caller := 0, callee := 3 }]

/-- turned round, out leads to work and work to main, and side is not shown either -/
theorem focus_reversed_fork :
    fork.InRange ∧ ∃ g, fork.reversed.reduce? (.focus 1) {} { byPackage := true } = some g ∧
      g.nodes = [⟨0, [.package "app"]⟩, ⟨1, [.package "work"]⟩, ⟨2, [.package "lib"]⟩] ∧
      g.edges.Perm [{ caller := 1, callee := 0, kinds := [.static, .go], sites := 2 },
        { caller := 2, callee := 1, kinds := [.static], sites := 1 },
        { caller := 2, callee := 2, kinds := [.static], sites := 1 }] := by
  have hin : fork.InRange := by decide
  have hgraph : fork.reduce? (.focus 1) {} { byPackage := true } = some
      { focus := some 1
        nodes := [⟨0, [.package "app"]⟩, ⟨1, [.package "work"]⟩, ⟨2, [.package "lib"]⟩]
        edges := [{ caller := 0, callee := 1, kinds := [.static, .go], sites := 2 },
          { caller := 1, callee := 2, kinds := [.static], sites := 1 },
          { caller := 2, callee := 2, kinds := [.static], sites := 1 }] } := by
    decide +kernel
  obtain ⟨g, g', hreduce, hreduce', -, hnodes, hedges⟩ := focus_reversed hin 1 {} { byPackage := true }
  obtain rfl := Option.some.inj (hreduce.symm.trans hgraph)
  exact ⟨hin, g', hreduce', hnodes, hedges⟩

end Program

end CallAtlas
