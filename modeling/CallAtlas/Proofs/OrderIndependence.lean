/-
The order in which a program was built.

`Rearranged p q` says that two programs have the same calls in any order, and the same entries in any order. Programs to
which the same calls and entries were added, in any order and the entries also repeatedly, are rearranged
(`rearranged_addAll`). A run does not tell them apart:
- `Rearranged.eligibleCalls_perm`: a search finds the same functions in both, so the same calls are eligible.
- `Rearranged.reduce_eq`: so they reduce to one graph, or fail with one error.
- `SameFunctions.dot?` and `SameFunctions.document?`: a drawing and a listing of one graph look up functions and packages
  only.
- `rearranged_runs_alike`: so all that a run writes is the same.
-/
import CallAtlas.Proofs.DrawnClusters
import CallAtlas.Proofs.NodeNames
import CallAtlas.Proofs.SameFunctions

namespace CallAtlas

/-! ## Programs in another order -/

namespace Program

/-- two programs differ at most in the order of calls and in the order of entries -/
structure Rearranged (p q : Program) : Prop extends SameFunctions p q where
  calls : q.calls.Perm p.calls
  entryPoints : ∀ f, f ∈ q.entryPoints ↔ f ∈ p.entryPoints
  testEntryPoints : ∀ f, f ∈ q.testEntryPoints ↔ f ∈ p.testEntryPoints

/-- adds calls, entry points and test entry points, one after another -/
def addAll (p : Program) (calls : List Call) (entries tests : List FunctionId) : Program :=
  tests.foldl addTestEntryPoint (entries.foldl addEntryPoint (calls.foldl addCall p))

theorem foldl_addCall (p : Program) (calls : List Call) :
    calls.foldl addCall p = { p with calls := p.calls ++ calls } := by
  induction calls generalizing p with
  | nil => simp
  | cons c calls ih =>
    rw [List.foldl_cons, ih]
    simp [addCall]

theorem addAll_eq (p : Program) (calls : List Call) (entries tests : List FunctionId) :
    p.addAll calls entries tests =
      { p with
        calls := p.calls ++ calls
        entryPoints := entries.foldl addNew p.entryPoints
        testEntryPoints := tests.foldl addNew p.testEntryPoints } := by
  unfold addAll
  rw [foldl_addTestEntryPoint, foldl_addEntryPoint, foldl_addCall]

/-- the same calls and entries, added in another order, and entries also several times -/
theorem rearranged_addAll (p : Program) {calls calls' : List Call} {entries entries' tests tests' : List FunctionId}
    (hcalls : calls'.Perm calls) (hentries : ∀ f, f ∈ entries' ↔ f ∈ entries) (htests : ∀ f, f ∈ tests' ↔ f ∈ tests) :
    Rearranged (p.addAll calls entries tests) (p.addAll calls' entries' tests') := by
  rw [addAll_eq, addAll_eq]
  constructor
  case toSameFunctions => exact ⟨rfl, rfl, rfl, rfl⟩
  case calls => exact hcalls.append_left p.calls
  case entryPoints =>
    intro f
    simp only [mem_foldl_addNew, hentries]
  case testEntryPoints =>
    intro f
    simp only [mem_foldl_addNew, htests]

/-! ## One graph -/

namespace Rearranged

variable {p q : Program} {focus : Option PackageId} {entries entries' : List FunctionId} {u v : FunctionId}

theorem inRange (h : Rearranged p q) (hp : p.InRange) : q.InRange where
  packages f hf := h.packages ▸ hp.packages f (h.functions ▸ hf)
  wraps f hf target htarget := h.functions ▸ hp.wraps f (h.functions ▸ hf) target htarget
  calls c hc := h.functions ▸ hp.calls c (h.calls.mem_iff.1 hc)
  entryPoints f hf := h.functions ▸ hp.entryPoints f ((h.entryPoints f).1 hf)
  testEntryPoints f hf := h.functions ▸ hp.testEntryPoints f ((h.testEntryPoints f).1 hf)

theorem reaches_eq (h : Rearranged p q) : q.Reaches = p.Reaches := by
  have hcall : q.HasCall = p.HasCall := by
    funext u v
    unfold HasCall
    simp only [h.calls.mem_iff]
  unfold Reaches
  rw [hcall]

/-- a focus, or entries in any order, ask for the same calls -/
theorem covers_iff (h : Rearranged p q) (hentries : ∀ f, f ∈ entries' ↔ f ∈ entries) :
    q.Covers u v (Analysis.scope focus entries') ↔ p.Covers u v (Analysis.scope focus entries) := by
  cases focus with
  | none =>
    change (∃ r ∈ entries', q.Reaches r u) ↔ ∃ r ∈ entries, p.Reaches r u
    simp only [hentries, h.reaches_eq]
  | some package =>
    change q.ComesFrom package u ∨ q.LeadsTo package v ↔ p.ComesFrom package u ∨ p.LeadsTo package v
    unfold ComesFrom LeadsTo
    simp only [h.definedIn_iff, h.reaches_eq]

theorem shown_iff (hentries : ∀ f, f ∈ entries' ↔ f ∈ entries) (f : FunctionId) :
    f ∈ (Analysis.scope focus entries').shown ↔ f ∈ (Analysis.scope focus entries).shown := by
  cases focus with
  | none => exact hentries f
  | some package => exact Iff.rfl

theorem eligibleCalls_perm (h : Rearranged p q) (hp : p.InRange) (hs : (Analysis.scope focus entries).InRange p)
    (hentries : ∀ f, f ∈ entries' ↔ f ∈ entries) :
    (q.eligibleCalls (Analysis.scope focus entries')).Perm (p.eligibleCalls (Analysis.scope focus entries)) := by
  classical
  rw [(h.inRange hp).eligibleCalls_eq (h.scope_inRange (shown_iff hentries) hs), hp.eligibleCalls_eq hs]
  simp only [h.covers_iff hentries]
  exact h.calls.filter _

theorem reduce?_scope (h : Rearranged p q) (hp : p.InRange) (hs : (Analysis.scope focus entries).InRange p)
    (hentries : ∀ f, f ∈ entries' ↔ f ∈ entries) (filter : Filter) (grouping : Grouping) :
    q.reduce? (Analysis.scope focus entries') filter grouping =
      p.reduce? (Analysis.scope focus entries) filter grouping := by
  have hfocus : (Analysis.scope focus entries').focus? = (Analysis.scope focus entries).focus? := by
    cases focus <;> rfl
  exact h.toSameFunctions.reduce?_eq hp (h.inRange hp) hs hfocus (shown_iff hentries)
    (h.eligibleCalls_perm hp hs hentries) filter grouping

/-- of two lists with the same functions both are empty or none is -/
theorem starts_cases {xs ys : List FunctionId} (hmem : ∀ f, f ∈ ys ↔ f ∈ xs) (e : EntryError) :
    (∃ e', (if xs = [] then .error e else .ok xs) = Except.error e' ∧
        (if ys = [] then .error e else .ok ys) = Except.error e') ∨
      ∃ starts starts', (if xs = [] then .error e else .ok xs) = Except.ok starts ∧
        (if ys = [] then .error e else .ok ys) = Except.ok starts' ∧ ∀ f, f ∈ starts' ↔ f ∈ starts := by
  have hnil : ys = [] ↔ xs = [] := by simp only [List.eq_nil_iff_forall_not_mem, hmem]
  by_cases hempty : xs = []
  · exact Or.inl ⟨e, if_pos hempty, if_pos (hnil.2 hempty)⟩
  · exact Or.inr ⟨xs, ys, if_neg hempty, if_neg fun hys => hempty (hnil.1 hys), hmem⟩

/-- both programs have nowhere to start from, or they start from the same functions -/
theorem entries_cases (h : Rearranged p q) (tests : Bool) :
    (∃ e, p.entries tests = .error e ∧ q.entries tests = .error e) ∨
      ∃ starts starts', p.entries tests = .ok starts ∧ q.entries tests = .ok starts' ∧
        ∀ f, f ∈ starts' ↔ f ∈ starts := by
  cases tests with
  | false => exact starts_cases h.entryPoints .noMain
  | true => exact starts_cases h.testEntryPoints .noTests

/-- **One graph or one error.** Rearranged programs reduce alike under all settings. -/
theorem reduce_eq (h : Rearranged p q) (hp : p.InRange) (s : Settings) : Analysis.reduce q s = Analysis.reduce p s := by
  unfold Analysis.reduce
  rw [h.packages]
  apply bind_congr
  intro focus
  rcases h.entries_cases s.tests with ⟨e, hentries, hentries'⟩ | ⟨entries, entries', hentries, hentries', hmem⟩
  · -- neither program is reduced after a failure, so the two reductions need not be compared
    rw [hentries, hentries']
    change Except.error (Failure.entry e) = Except.error (Failure.entry e)
    rfl
  · have hs : (Analysis.scope focus entries).InRange p := hp.scope_inRange focus hentries
    rw [hentries, hentries']
    change Analysis.existing (q.reduce? (Analysis.scope focus entries') s.filter s.grouping) =
      Analysis.existing (p.reduce? (Analysis.scope focus entries) s.filter s.grouping)
    rw [h.reduce?_scope hp hs hmem]

end Rearranged

/-! ## One drawing and one listing -/

namespace SameFunctions

variable {p q : Program}

theorem label? (h : SameFunctions p q) (g : Graph) (grouping : Grouping) (id : FunctionId) :
    Drawing.label? q g grouping id = Drawing.label? p g grouping id := by
  unfold Drawing.label?
  rw [h.functions, h.packages]

theorem nodeStatement? (h : SameFunctions p q) (g : Graph) (grouping : Grouping) :
    Drawing.nodeStatement? q g grouping = Drawing.nodeStatement? p g grouping := by
  funext id
  unfold Drawing.nodeStatement?
  rw [h.functions, h.label?, h.qualifiedName?]

theorem edgeStatement? (h : SameFunctions p q) : Drawing.edgeStatement? q = Drawing.edgeStatement? p := by
  funext e
  unfold Drawing.edgeStatement?
  rw [h.qualifiedName?, h.qualifiedName?]

theorem clusterStatements? (h : SameFunctions p q) (g : Graph) :
    Drawing.clusterStatements? q g = Drawing.clusterStatements? p g := by
  have hattributes : Drawing.clusterAttributes? q g = Drawing.clusterAttributes? p g := by
    funext key
    unfold Drawing.clusterAttributes? packageByPath?
    rw [h.packages]
  funext number key inside
  unfold Drawing.clusterStatements?
  rw [hattributes]

theorem clusters? (h : SameFunctions p q) (g : Graph)
    (inside : Nat → List Drawing.Item → Option (Nat × List Dot.Statement)) (items : List Drawing.Item) (count : Nat)
    (keys : List ClusterKey) :
    Drawing.clusters? q g inside items count keys = Drawing.clusters? p g inside items count keys := by
  induction keys generalizing count with
  | nil => rfl
  | cons key keys ih =>
    unfold Drawing.clusters?
    simp only [h.clusterStatements?, ih]

theorem tree? (h : SameFunctions p q) (g : Graph) (grouping : Grouping) (depth : Nat) :
    Drawing.tree? q g grouping depth = Drawing.tree? p g grouping depth := by
  induction depth with
  | zero =>
    funext count items
    unfold Drawing.tree?
    rw [h.nodeStatement?]
  | succ depth ih =>
    funext count items
    unfold Drawing.tree?
    rw [ih, h.clusters?, h.nodeStatement?]

/-- a drawing looks up functions and packages only -/
theorem dot? (h : SameFunctions p q) (g : Graph) (grouping : Grouping) (layout : Layout) :
    Drawing.dot? q g grouping layout = Drawing.dot? p g grouping layout := by
  have hpath : Drawing.focusPath? q g = Drawing.focusPath? p g := by
    unfold Drawing.focusPath?
    rw [h.packages]
  unfold Drawing.dot? Drawing.statements?
  rw [hpath, h.tree?, h.edgeStatement?]

/-- a listing looks up functions and packages only -/
theorem document? (h : SameFunctions p q) (g : Graph) (layout : Layout) :
    Listing.document? q g layout = Listing.document? p g layout := by
  have hfocus : Listing.focus? q g = Listing.focus? p g := by
    unfold Listing.focus?
    rw [h.packages]
  have hname : q.qualifiedName? = p.qualifiedName? := funext h.qualifiedName?
  have hnode : Listing.node? q = Listing.node? p := by
    funext n
    unfold Listing.node?
    rw [h.functions, h.packages, hname]
  have hedge : Listing.edge? q = Listing.edge? p := by
    funext e
    unfold Listing.edge?
    rw [hname]
  have hcluster : Listing.cluster? q = Listing.cluster? p := by
    funext c
    unfold Listing.cluster?
    rw [hname]
  unfold Listing.document?
  rw [hfocus, hnode, hedge, hcluster]

theorem text? (h : SameFunctions p q) (g : Graph) (s : Settings) : Analysis.text? q g s = Analysis.text? p g s := by
  unfold Analysis.text? Listing.json?
  rw [h.dot?, h.document?]

end SameFunctions

end Program

/-! ## Runs -/

namespace Analysis

variable {p q : Program}

/-- if all ids exist, a run stops at its focus, or for want of entries, or it has a graph -/
theorem reduce_stages (h : p.InRange) (s : Settings) :
    (∃ e, (Focus.resolve s.focus p.packages).result s.focus = .error e ∧ reduce p s = .error (.focus e)) ∨
      (∃ e, p.entries s.tests = .error e ∧ reduce p s = .error (.entry e)) ∨ ∃ g, reduce p s = .ok g := by
  unfold reduce
  cases (Focus.resolve s.focus p.packages).result s.focus with
  | error e => exact Or.inl ⟨e, rfl, rfl⟩
  | ok focus =>
    cases hentries : p.entries s.tests with
    | error e => exact Or.inr (Or.inl ⟨e, rfl, rfl⟩)
    | ok entries =>
      obtain ⟨g, hreduce, -⟩ := h.exists_reduce? (h.scope_inRange focus hentries) s.filter s.grouping
      refine Or.inr (Or.inr ⟨g, ?_⟩)
      change existing (p.reduce? (scope focus entries) s.filter s.grouping) = .ok g
      rw [hreduce, existing]

theorem reduce_cases (h : p.InRange) (s : Settings) :
    (∃ e, reduce p s = .error (.focus e)) ∨ (∃ e, reduce p s = .error (.entry e)) ∨ ∃ g, reduce p s = .ok g :=
  (reduce_stages h s).imp (fun ⟨e, _, hreduce⟩ => ⟨e, hreduce⟩)
    (Or.imp_left fun ⟨e, _, hreduce⟩ => ⟨e, hreduce⟩)

/-- the graph of a run has a drawing and a listing -/
theorem exists_texts (h : p.InRange) {s : Settings} {g : Graph} (hg : reduce p s = .ok g) :
    (∃ drawing, Drawing.dot? p g s.grouping s.layout = some drawing) ∧
      ∃ document, Listing.document? p g s.layout = some document := by
  obtain ⟨scope, hs, hfocus, hreduced⟩ := exists_reducesTo h hg
  obtain ⟨statements, hstatements, -⟩ := Drawing.exists_statements? h hs hfocus hreduced s.layout
  have hids : ∀ f, g.HasNode f → f < p.functions.length := fun f => hreduced.lt_of_hasNode h hs
  have hends : ∀ u v, g.HasEdge u v → g.HasNode u ∧ g.HasNode v := fun u v => hreduced.hasNode_of_hasEdge
  obtain ⟨document, hdocument, -⟩ := Listing.exists_document? h (hreduced.focus ▸ hfocus) hids hends s.layout
  exact ⟨⟨_, by rw [Drawing.dot?, hstatements, Option.map_some]⟩, document, hdocument⟩

/-- **The order of calls and entries does not matter.** Under all settings, rearranged programs fail with the same error,
of the focus or of the entries, or have the same graph, and then both have one drawing and one listing of it. So the
output is the same. -/
theorem rearranged_runs_alike (h : p.InRange) (hpq : p.Rearranged q) (s : Settings) :
    (reduce q s = reduce p s ∧ render q s = render p s) ∧
      ((∃ e, reduce p s = .error (.focus e)) ∨ (∃ e, reduce p s = .error (.entry e)) ∨
        ∃ g drawing document, reduce p s = .ok g ∧
          (Drawing.dot? p g s.grouping s.layout = some drawing ∧ Drawing.dot? q g s.grouping s.layout = some drawing) ∧
          Listing.document? p g s.layout = some document ∧ Listing.document? q g s.layout = some document) := by
  have hreduce : reduce q s = reduce p s := hpq.reduce_eq h s
  have hrender : render q s = render p s := by
    unfold render
    rw [hreduce]
    simp only [hpq.text?]
  refine ⟨⟨hreduce, hrender⟩, (reduce_cases h s).imp_right (Or.imp_right ?_)⟩
  rintro ⟨g, hg⟩
  obtain ⟨⟨drawing, hdrawing⟩, document, hdocument⟩ := exists_texts h hg
  exact ⟨g, drawing, document, hg, ⟨hdrawing, (hpq.dot? g s.grouping s.layout).trans hdrawing⟩, hdocument,
    (hpq.document? g s.layout).trans hdocument⟩

/-- a program to which calls and entries are still to be added -/
def bare : Program where
  packages := [⟨"app", "main"⟩, ⟨"app/store", "store"⟩]
  functions := [{ name := "main", package := 0 }, { name := "serve", package := 0 },
    { name := "Get", package := 1, receiver := some "Store" }]

/-- execution starts at main and at serve, which both call Get, main once directly and once deferred -/
def inOrder : Program :=
  { bare with
    calls := [{ caller := 0, callee := 2 }, { caller := 1, callee := 2, kind := .dynamic },
      { caller := 0, callee := 2, kind := .defer }]
    entryPoints := [0, 1] }

/-- the same, when calls and entries are added backwards -/
def backwards : Program :=
  { bare with
    calls := inOrder.calls.reverse
    entryPoints := [1, 0] }

/-- the two programs store calls and entries in other orders, and have one graph and one drawing -/
theorem rearranged_runs_alike_backwards :
    inOrder.InRange ∧ inOrder.Rearranged backwards ∧ inOrder.calls ≠ backwards.calls ∧
      inOrder.entryPoints = [0, 1] ∧ backwards.entryPoints = [1, 0] ∧
      ∃ g drawing, reduce inOrder { focus := "" } = .ok g ∧ reduce backwards { focus := "" } = .ok g ∧
        Drawing.dot? inOrder g {} {} = some drawing ∧ Drawing.dot? backwards g {} {} = some drawing := by
  have hin : inOrder.InRange := by decide
  have hpq : inOrder.Rearranged backwards := by
    change (bare.addAll inOrder.calls [0, 1] []).Rearranged (bare.addAll inOrder.calls.reverse [1, 0, 1] [])
    apply bare.rearranged_addAll (List.reverse_perm _) (fun f => ?_) (fun f => Iff.rfl)
    grind
  have hgraph : reduce inOrder { focus := "" } = .ok
      { nodes := [⟨0, []⟩, ⟨1, []⟩, ⟨2, []⟩]
        edges := [{ caller := 0, callee := 2, kinds := [.static, .defer], sites := 2 },
          { caller := 1, callee := 2, kinds := [.dynamic], sites := 1 }] } := by
    decide +kernel
  obtain ⟨⟨hreduce, -⟩, hcases⟩ := rearranged_runs_alike hin hpq { focus := "" }
  rcases hcases with ⟨e, he⟩ | ⟨e, he⟩ | ⟨g, drawing, -, hg, ⟨hdrawing, hdrawing'⟩, -⟩
  · rw [hgraph] at he
    cases he
  · rw [hgraph] at he
    cases he
  · exact ⟨hin, hpq, by decide, by decide, by decide, g, drawing, hg, hreduce.trans hg, hdrawing, hdrawing'⟩

end Analysis

end CallAtlas
