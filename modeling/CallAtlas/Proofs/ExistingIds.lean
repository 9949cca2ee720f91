/-
A run of a loaded program looks up ids that exist.

Looking up an id that a program does not have is `danglingId` in a run. All ids that a loaded program stores exist
(`Program.Loaded.inRange`), and each stage passes on such ids only:
- `Focus.lt_of_resolve`: a focus is one of the packages.
- `Program.InRange.answers`: all that is asked of a function is known, and a search moves from function to function.
- `Analysis.graph_inRange`: the nodes, edges and clusters of a graph are of functions of its program.
- `Analysis.concludes`: so a run gives a graph with a drawing and a listing, or its focus or its entries are at fault.
- `Analysis.never_dangles`: this for all programs that a loader can make.
-/
import CallAtlas.Proofs.ShownEntries

namespace CallAtlas

/-! ## What the stages look up -/

theorem Focus.lt_of_resolve {focus : String} {packages : List Package} {id : PackageId}
    (h : resolve focus packages = .resolved id) : id < packages.length := by
  obtain ⟨path, k, hk, -⟩ := exists_at_of_resolved h
  exact (List.getElem?_eq_some_iff.1 hk).1

namespace Program

variable {p : Program}

/-- all that the stages ask of the functions of a program is known -/
structure Answers (p : Program) : Prop where
  packageOf : ∀ f < p.functions.length, ∃ k, p.packageOf? f = some k
  keeps : ∀ f < p.functions.length, ∀ filter, ∃ b, p.keeps? filter f = some b
  qualifiedName : ∀ f < p.functions.length, ∃ name, p.qualifiedName? f = some name
  owningPackage : ∀ f < p.functions.length, ∃ k, p.owningPackage? f = some k ∧ k < p.packages.length
  clusterKeys : ∀ f < p.functions.length, ∀ grouping, ∃ keys, p.clusterKeys? grouping f = some keys
  /-- a search forwards has successors among the functions only -/
  callees : p.callees.length = p.functions.length ∧ p.callees.InRange
  /-- so has a search backwards -/
  callers : p.callers.length = p.functions.length ∧ p.callers.InRange

theorem length_neighbours (p : Program) (near far : Call → FunctionId) :
    (p.neighbours near far).length = p.functions.length := by
  simp [neighbours]

theorem inRange_neighbours {near far : Call → FunctionId} (hfar : ∀ c ∈ p.calls, far c < p.functions.length) :
    (p.neighbours near far).InRange := by
  intro u v huv
  obtain ⟨-, c, hc, -, rfl⟩ := step_neighbours.1 huv
  exact p.length_neighbours near far ▸ hfar c hc

theorem InRange.answers (h : p.InRange) : p.Answers where
  packageOf _ := h.exists_packageOf?
  keeps _ hf filter := h.exists_keeps? filter hf
  qualifiedName _ := h.exists_qualifiedName?
  owningPackage _ := h.exists_owningPackage?
  clusterKeys _ hf grouping := h.exists_clusterKeys? grouping hf
  callees := ⟨p.length_neighbours _ _, inRange_neighbours fun c hc => (h.calls c hc).2⟩
  callers := ⟨p.length_neighbours _ _, inRange_neighbours fun c hc => (h.calls c hc).1⟩

end Program

/-- all ids in a graph are ids of a program -/
structure Graph.InRange (g : Graph) (p : Program) : Prop where
  focus : ∀ package ∈ g.focus, package < p.packages.length
  nodes : ∀ n ∈ g.nodes, n.id < p.functions.length
  edges : ∀ e ∈ g.edges, e.caller < p.functions.length ∧ e.callee < p.functions.length
  clusters : ∀ c ∈ g.clusters, ∀ f ∈ c.2, f < p.functions.length

/-! ## Runs -/

namespace Analysis

variable {p : Program} {s : Settings} {g : Graph}

theorem graph_inRange (h : p.InRange) (hg : reduce p s = .ok g) : g.InRange p := by
  obtain ⟨scope, hs, hfocus, hreduced⟩ := exists_reducesTo h hg
  have hnode : ∀ f, g.HasNode f → f < p.functions.length := fun f => hreduced.lt_of_hasNode h hs
  constructor
  case focus => exact hreduced.focus ▸ hfocus
  case nodes => exact fun n hn => hnode n.id ⟨n, hn, rfl⟩
  case edges => exact fun e he => (hreduced.hasNode_of_hasEdge ⟨e, he, rfl, rfl⟩).imp (hnode _) (hnode _)
  case clusters => exact fun c hc f hf => hnode f (Graph.hasNode_of_mem_clusters hc hf)

/-- how a run ends that finds all it looks up -/
inductive Concludes (p : Program) (s : Settings) : Prop where
  /-- the focus names no package, or several -/
  | focus (e : FocusError) (result : (Focus.resolve s.focus p.packages).result s.focus = .error e)
      (reduce : reduce p s = .error (.focus e)) (run : run (.ok p) s = .error (.focus e))
  /-- there is nowhere to start from -/
  | entry (e : EntryError) (entries : p.entries s.tests = .error e) (reduce : reduce p s = .error (.entry e))
      (run : run (.ok p) s = .error (.entry e))
  /-- there is a graph, and both formats can show it -/
  | graph (g : Graph) (drawing : String) (document : Json.Value) (output : String) (reduce : reduce p s = .ok g)
      (inRange : g.InRange p) (dot : Drawing.dot? p g s.grouping s.layout = some drawing)
      (json : Listing.document? p g s.layout = some document)
      (run : run (.ok p) s = .ok (if g.isEmpty then .empty output else .rendered output))

theorem run_eq_error {e : Failure} (h : reduce p s = .error e) : run (.ok p) s = .error e := by
  unfold run render
  simp only [Except.mapError, bind, Except.bind, h]

/-- **All that a run looks up exists** if all ids of the program do. -/
theorem concludes (h : p.InRange) (s : Settings) : Concludes p s := by
  rcases reduce_stages h s with ⟨e, hresult, hreduce⟩ | ⟨e, hentries, hreduce⟩ | ⟨g, hreduce⟩
  · exact .focus e hresult hreduce (run_eq_error hreduce)
  · exact .entry e hentries hreduce (run_eq_error hreduce)
  · obtain ⟨⟨drawing, hdrawing⟩, document, hdocument⟩ := exists_texts h hreduce
    obtain ⟨output, houtput⟩ := exists_text? h hreduce
    exact .graph g drawing document output hreduce (graph_inRange h hreduce) hdrawing hdocument (run_eq hreduce houtput)

theorem Concludes.ne_danglingId (h : Concludes p s) :
    reduce p s ≠ .error .danglingId ∧ run (.ok p) s ≠ .error .danglingId := by
  cases h with
  | focus e _ hreduce hrun => simp [hreduce, hrun]
  | entry e _ hreduce hrun => simp [hreduce, hrun]
  | graph g drawing document output hreduce _ _ _ hrun => simp [hreduce, hrun]

/-- **Loaded programs never dangle.** All ids of a program that a loader can make exist. Under all settings a focus is
one of its packages, what the stages ask of its functions is known, and a run gives its output or fails for its focus
or for want of entries, never for an id that does not exist. -/
theorem never_dangles (h : p.Loaded) (s : Settings) :
    p.InRange ∧ (∀ id, Focus.resolve s.focus p.packages = .resolved id → id < p.packages.length) ∧ p.Answers ∧
      Concludes p s ∧ reduce p s ≠ .error .danglingId ∧ run (.ok p) s ≠ .error .danglingId := by
  have hconcludes : Concludes p s := concludes h.inRange s
  exact ⟨h.inRange, fun _ => Focus.lt_of_resolve, h.inRange.answers, hconcludes, hconcludes.ne_danglingId⟩

/-- wrappers that forward to each other, the first of them before the other is declared -/
def roundabout : Manifest where
  packages := [{ path := "app", name := some "main" }]
  functions := [{ id := "main", package := "app", name := "main" },
    { id := "there", package := "app", name := "There", synthetic := true, wraps := some "back" },
    { id := "back", package := "app", name := "Back", synthetic := true, wraps := some "there" }]
  calls := [{ caller := "main", callee := "there" }, { caller := "back", callee := "back" }]

/-- the wrappers lead nowhere, and still the run has an output -/
theorem never_dangles_roundabout :
    ∃ p, roundabout.link = .ok p ∧ p.Loaded ∧ p.functions.map Function.wraps = [none, some 2, some 1] ∧
      p.entries false = .ok [0] ∧ p.InRange ∧
      ∃ g, reduce p { grouping := { byPackage := true } } = .ok g ∧ g.InRange p ∧
        ∃ output, run (.ok p) { grouping := { byPackage := true } } = .ok output := by
  obtain ⟨p, hlink, hwraps, hentries, hfocus⟩ : ∃ p, roundabout.link = .ok p ∧
      p.functions.map Function.wraps = [none, some 2, some 1] ∧ p.entries false = .ok [0] ∧
        (Focus.resolve "main" p.packages).result "main" = .ok (some 0) :=
    ⟨_, rfl, by decide +kernel, by decide +kernel, by decide +kernel⟩
  have hloaded : p.Loaded := .manifest hlink
  obtain ⟨hin, -, -, hconcludes, -⟩ := never_dangles hloaded { grouping := { byPackage := true } }
  cases hconcludes with
  | focus e he =>
    rw [hfocus] at he
    cases he
  | entry e he =>
    rw [hentries] at he
    cases he
  | graph g _ _ output hreduce hgraph _ _ hrun =>
    exact ⟨p, hlink, hloaded, hwraps, hentries, hin, g, hreduce, hgraph, _, hrun⟩

/-- a program that no loader makes: its only call leads to a function that it does not have -/
def adrift : Program where
  packages := [⟨"app", "main"⟩]
  functions := [{ name := "main", package := 0 }]
  calls := [{ caller := 0, callee := 7 }]
  entryPoints := [0]

example : run (.ok adrift) {} = .error .danglingId := by
  decide +kernel

end Analysis

end CallAtlas
