/-
Functions and their names in a listing.

A listing tells nodes by qualified names, and refers to them by these names in edges and clusters. `Signature` is what a
qualified name is written from.
- `qualifiedName?_eq`: functions of one signature have one name, and nothing else tells them apart.
- `Signature.eq_of_text_eq`: the name gives the signature back if no name or receiver has a dot and no package path goes
  on where another has a receiver.
- `ids_tell_apart`: the ids of a listing are pairwise different exactly if the names of the functions that are shown
  are, and then each end of an edge and each member of a cluster is the id of one node, that of its function.
- `methods_share_id`: a manifest can have two methods of one signature, whose nodes have one id.
-/
import Mathlib.Data.List.Nodup
import CallAtlas.Proofs.FocusResolution
import CallAtlas.Proofs.Loading
import CallAtlas.Proofs.Reduction
import CallAtlas.Analysis

namespace CallAtlas

/-! ## Graphs of a run -/

/-- a stage that succeeds, under the errors of the run -/
theorem ok_of_mapError_ok {ε ε' α : Type} {f : ε → ε'} {x : Except ε α} {a : α} (h : x.mapError f = .ok a) :
    x = .ok a := by
  cases x with
  | error e => cases h
  | ok b => exact congrArg _ (Except.ok.inj h)

/-- a run starts at a package or at functions that exist -/
theorem Program.InRange.scope_inRange {p : Program} (h : p.InRange) (focus : Option PackageId) {tests : Bool}
    {entries : List FunctionId} (hentries : p.entries tests = .ok entries) :
    (Analysis.scope focus entries).InRange p := by
  cases focus with
  | none => exact h.lt_of_entries hentries
  | some package => exact Scope.inRange_focus package p

/-- a run with a graph has a focus or none, it has entries, and the graph is what the reduction gives -/
theorem Analysis.exists_stages_of_reduce {p : Program} {s : Settings} {g : Graph} (h : p.InRange)
    (hg : Analysis.reduce p s = .ok g) :
    ∃ focus entries, (Focus.resolve s.focus p.packages).result s.focus = .ok focus ∧
      p.entries s.tests = .ok entries ∧ p.ReducesTo (Analysis.scope focus entries) s.filter s.grouping g := by
  obtain ⟨focus, hfocus, hg⟩ := exists_of_bind_ok hg
  obtain ⟨entries, hentries, hg⟩ := exists_of_bind_ok hg
  have hentries : p.entries s.tests = .ok entries := ok_of_mapError_ok hentries
  obtain ⟨g', hreduce, hg'⟩ := h.exists_reduce? (h.scope_inRange focus hentries) s.filter s.grouping
  rw [hreduce] at hg
  cases hg
  exact ⟨focus, entries, ok_of_mapError_ok hfocus, hentries, hg'⟩

/-- it starts at a focus or at entries that exist -/
theorem Analysis.exists_reducesTo {p : Program} {s : Settings} {g : Graph} (h : p.InRange)
    (hg : Analysis.reduce p s = .ok g) :
    ∃ scope : Scope, scope.InRange p ∧ (∀ package ∈ scope.focus?, package < p.packages.length) ∧
      p.ReducesTo scope s.filter s.grouping g := by
  obtain ⟨focus, entries, hfocus, hentries, hg⟩ := exists_stages_of_reduce h hg
  refine ⟨_, h.scope_inRange focus hentries, ?_, hg⟩
  cases focus with
  | none => simp [scope, Scope.focus?]
  | some package =>
    obtain ⟨path, k, hk, -⟩ := Focus.exists_at_of_resolved (Focus.eq_resolved_of_result hfocus)
    have hlt : package < p.packages.length := (List.getElem?_eq_some_iff.1 hk).1
    simpa [scope, Scope.focus?] using hlt

/-! ## Signatures -/

namespace Program

/-- what a qualified name is written from -/
structure Signature where
  path : String
  receiver : Option String
  name : String
  deriving DecidableEq, Repr

namespace Signature

/-- the parts with dots between them -/
def text (s : Signature) : String :=
  match s.receiver with
  | some receiver => s.path ++ "." ++ receiver ++ "." ++ s.name
  | none => s.path ++ "." ++ s.name

/-- name and receiver have no dot of their own -/
def Plain (s : Signature) : Prop :=
  '.' ∉ s.name.toList ∧ ∀ r ∈ s.receiver, '.' ∉ r.toList

/-- a text tells where its last dot stands -/
theorem append_dot_inj {x y n m : String} (hn : '.' ∉ n.toList) (hm : '.' ∉ m.toList)
    (h : x ++ "." ++ n = y ++ "." ++ m) : x = y ∧ n = m := by
  have hchars : x.toList ++ '.' :: n.toList = y.toList ++ '.' :: m.toList := by
    simpa [String.toList_append] using congrArg String.toList h
  -- the shorter of the two beginnings ends at the same dot, or its dot stands in the other's last part
  rcases List.append_eq_append_iff.1 hchars with ⟨a, hy, hrest⟩ | ⟨a, hx, hrest⟩
  · cases a with
    | nil =>
      rw [List.append_nil] at hy
      exact ⟨(String.toList_injective hy).symm, String.toList_injective (List.cons.inj hrest).2⟩
    | cons c a => exact absurd ((List.cons.inj hrest).2 ▸ by simp) hn
  · cases a with
    | nil =>
      rw [List.append_nil] at hx
      exact ⟨String.toList_injective hx, String.toList_injective (List.cons.inj hrest).2.symm⟩
    | cons c a => exact absurd ((List.cons.inj hrest).2 ▸ by simp) hm

/-- **A name gives its signature back.** Names and receivers have no dots, and no path goes on as the other does with
its receiver. -/
theorem eq_of_text_eq {s t : Signature} (hs : s.Plain) (ht : t.Plain)
    (hpath : ∀ r ∈ s.receiver, s.path ++ "." ++ r ≠ t.path) (hpath' : ∀ r ∈ t.receiver, t.path ++ "." ++ r ≠ s.path)
    (h : s.text = t.text) : s = t := by
  obtain ⟨path, receiver, name⟩ := s
  obtain ⟨path', receiver', name'⟩ := t
  cases receiver with
  | none =>
    cases receiver' with
    | none =>
      obtain ⟨rfl, rfl⟩ := append_dot_inj hs.1 ht.1 h
      rfl
    | some r' => exact absurd (append_dot_inj hs.1 ht.1 h).1.symm (hpath' r' rfl)
  | some r =>
    cases receiver' with
    | none => exact absurd (append_dot_inj hs.1 ht.1 h).1 (hpath r rfl)
    | some r' =>
      obtain ⟨hfront, rfl⟩ := append_dot_inj hs.1 ht.1 h
      obtain ⟨rfl, rfl⟩ := append_dot_inj (hs.2 r rfl) (ht.2 r' rfl) hfront
      rfl

end Signature

/-- package path, receiver and name of a function -/
def signature? (p : Program) (id : FunctionId) : Option Signature := do
  let f ← p.functions[id]?
  let package ← p.packages[f.package]?
  return { path := package.path, receiver := f.receiver, name := f.name }

theorem qualifiedName?_eq (p : Program) (id : FunctionId) :
    p.qualifiedName? id = (p.signature? id).map Signature.text := by
  unfold qualifiedName? signature?
  cases p.functions[id]? with
  | none => rfl
  | some f =>
    cases hk : p.packages[f.package]? with
    | none => simp [hk]
    | some k => cases hr : f.receiver <;> simp [hk, hr, Signature.text]

end Program

/-! ## Reading a listing -/

namespace Listing

open Json (Value)

/-- the member of an object under a name -/
def member? (name : String) : Value → Option Value
  | .object members => members.lookup name
  | _ => none

/-- the text under a name -/
def text? (name : String) (v : Value) : Option String :=
  match member? name v with
  | some (.string s) => some s
  | _ => none

/-- the items of the array under a name -/
def items (name : String) (v : Value) : List Value :=
  match member? name v with
  | some (.array items) => items
  | _ => []

/-- the texts in the array under a name -/
def texts (name : String) (v : Value) : List (Option String) :=
  (items name v).map fun
    | .string s => some s
    | _ => none

/-- the ids of the nodes -/
def ids (doc : Value) : List (Option String) :=
  (items "nodes" doc).map (text? "id")

/-- a text is the id of one node, the one that stands for a function -/
def Names (g : Graph) (doc : Value) (t : Option String) (f : FunctionId) : Prop :=
  ∃ i, (g.nodes.map Node.id)[i]? = some f ∧ ∀ j : Nat, (ids doc)[j]? = some t ↔ j = i

/-- each end of an edge and each member of a cluster names its function -/
structure NamesFunctions (g : Graph) (doc : Value) : Prop where
  edges : List.Forall₂ (fun e v => Names g doc (text? "from" v) e.caller ∧ Names g doc (text? "to" v) e.callee) g.edges
    (items "edges" doc)
  clusters : List.Forall₂ (fun c v => List.Forall₂ (fun f t => Names g doc t f) c.2 (texts "members" v)) g.clusters
    (items "clusters" doc)

variable {p : Program} {g : Graph} {l : Layout} {f : FunctionId}

/-! ## What a listing says -/

theorem exists_node? (h : p.InRange) {n : Node} (hn : n.id < p.functions.length) :
    ∃ v, node? p n = some v ∧ text? "id" v = p.qualifiedName? n.id := by
  obtain ⟨k, hk⟩ := h.exists_package (List.getElem_mem hn)
  obtain ⟨name, hname⟩ := h.exists_qualifiedName? hn
  refine ⟨_, by simp only [node?, List.getElem?_eq_getElem hn, Option.bind_eq_bind, Option.bind_some, hk, hname]; rfl, ?_⟩
  rw [hname]
  rfl

theorem exists_edge? (h : p.InRange) {e : Edge} (hcaller : e.caller < p.functions.length)
    (hcallee : e.callee < p.functions.length) :
    ∃ v, edge? p e = some v ∧ text? "from" v = p.qualifiedName? e.caller ∧ text? "to" v = p.qualifiedName? e.callee := by
  obtain ⟨caller, hcaller⟩ := h.exists_qualifiedName? hcaller
  obtain ⟨callee, hcallee⟩ := h.exists_qualifiedName? hcallee
  refine ⟨_, by simp only [edge?, hcaller, hcallee]; rfl, ?_⟩
  rw [hcaller, hcallee]
  exact ⟨rfl, rfl⟩

theorem exists_cluster? (h : p.InRange) {c : ClusterKey × List FunctionId} (hc : ∀ f ∈ c.2, f < p.functions.length) :
    ∃ v, cluster? p c = some v ∧ texts "members" v = c.2.map p.qualifiedName? := by
  obtain ⟨names, hnames, hall⟩ := exists_mapM fun f hf => (h.exists_qualifiedName? (hc f hf)).imp fun _ hname =>
    ⟨hname, hname⟩
  refine ⟨.object (keyMembers c.1 ++ [("members", strings names)]), by rw [cluster?, hnames]; rfl, ?_⟩
  have hitems : items "members" (.object (keyMembers c.1 ++ [("members", strings names)])) = names.map .string := by
    obtain ⟨key, members⟩ := c
    cases key <;> rfl
  have hsome : c.2.map p.qualifiedName? = names.map some := by
    rw [← List.forall₂_eq_eq_eq, List.forall₂_map_left_iff, List.forall₂_map_right_iff]
    exact hall
  rw [texts, hitems, List.map_map, hsome]
  rfl

/-- what the document of a graph says of its functions -/
structure Tells (p : Program) (g : Graph) (doc : Value) : Prop where
  ids : ids doc = (g.nodes.map Node.id).map p.qualifiedName?
  edges : List.Forall₂ (fun e v => text? "from" v = p.qualifiedName? e.caller ∧ text? "to" v = p.qualifiedName? e.callee)
    g.edges (items "edges" doc)
  clusters : List.Forall₂ (fun c v => texts "members" v = c.2.map p.qualifiedName?) g.clusters (items "clusters" doc)

/-- **A graph of existing functions has a listing.** -/
theorem exists_document? (h : p.InRange) (hfocus : ∀ package ∈ g.focus, package < p.packages.length)
    (hids : ∀ f, g.HasNode f → f < p.functions.length) (hends : ∀ u v, g.HasEdge u v → g.HasNode u ∧ g.HasNode v)
    (l : Layout) : ∃ doc, document? p g l = some doc ∧ Tells p g doc := by
  have hpath : ∃ v, focus? p g = some v := by
    unfold focus?
    cases hpackage : g.focus with
    | none => exact ⟨_, rfl⟩
    | some package => exact ⟨_, by simp only [List.getElem?_eq_getElem (hfocus package hpackage)]; rfl⟩
  obtain ⟨focus, hfocus⟩ := hpath
  obtain ⟨nodes, hnodes, hallNodes⟩ := exists_mapM fun n hn => exists_node? h (hids n.id ⟨n, hn, rfl⟩)
  obtain ⟨edges, hedges, hallEdges⟩ := exists_mapM fun e he =>
    have hboth := hends e.caller e.callee ⟨e, he, rfl, rfl⟩
    exists_edge? h (hids _ hboth.1) (hids _ hboth.2)
  obtain ⟨clusters, hclusters, hallClusters⟩ := exists_mapM fun c hc =>
    exists_cluster? h fun f hf => hids f (Graph.hasNode_of_mem_clusters hc hf)
  refine ⟨.object [("focus", focus), ("layout", layout l), ("nodes", .array nodes), ("edges", .array edges),
    ("clusters", .array clusters)], by rw [document?, hfocus, hnodes, hedges, hclusters]; rfl, ?_, hallEdges,
    hallClusters⟩
  have hsame : nodes.map (text? "id") = (g.nodes.map Node.id).map p.qualifiedName? := by
    rw [eq_comm, List.map_map, ← List.forall₂_eq_eq_eq, List.forall₂_map_left_iff, List.forall₂_map_right_iff]
    exact hallNodes.imp fun _ _ => Eq.symm
  exact hsame

namespace Tells

variable {doc : Value}

/-- ids are pairwise different exactly if names are -/
theorem nodup_ids_iff (ht : Tells p g doc) (hnodup : (g.nodes.map Node.id).Nodup) :
    (Listing.ids doc).Nodup ↔
      ∀ u v, g.HasNode u → g.HasNode v → p.qualifiedName? u = p.qualifiedName? v → u = v := by
  rw [ht.ids, List.nodup_map_iff_inj_on hnodup]
  simp only [← Graph.hasNode_iff_mem_ids]
  exact ⟨fun hinj u v hu hv => hinj u hu v hv, fun hinj u hu v hv => hinj u v hu hv⟩

theorem names (ht : Tells p g doc) (hids : (Listing.ids doc).Nodup) {f : FunctionId} (hf : g.HasNode f) :
    Names g doc (p.qualifiedName? f) f := by
  obtain ⟨i, hi⟩ := List.mem_iff_getElem?.1 (Graph.hasNode_iff_mem_ids.1 hf)
  have hid : (Listing.ids doc)[i]? = some (p.qualifiedName? f) := by rw [ht.ids, List.getElem?_map, hi, Option.map_some]
  refine ⟨i, hi, fun j => ⟨fun hj => ?_, fun hji => hji ▸ hid⟩⟩
  have hlt : j < (Listing.ids doc).length := (List.getElem?_eq_some_iff.1 hj).1
  exact (List.getElem?_inj hlt hids).1 (hj.trans hid.symm)

/-- with ids pairwise different, all that refers to a function names it -/
theorem namesFunctions (ht : Tells p g doc) (hids : (Listing.ids doc).Nodup)
    (hends : ∀ u v, g.HasEdge u v → g.HasNode u ∧ g.HasNode v) : NamesFunctions g doc where
  edges := by
    refine ((List.forall₂_and_left _ _).2 ⟨fun e he => he, ht.edges⟩).imp ?_
    rintro e v ⟨he, hfrom, hto⟩
    obtain ⟨hcaller, hcallee⟩ := hends _ _ ⟨e, he, rfl, rfl⟩
    exact ⟨hfrom ▸ ht.names hids hcaller, hto ▸ ht.names hids hcallee⟩
  clusters := by
    refine ((List.forall₂_and_left _ _).2 ⟨fun c hc => hc, ht.clusters⟩).imp ?_
    rintro c v ⟨hc, hmembers⟩
    rw [hmembers, List.forall₂_map_right_iff, List.forall₂_same]
    exact fun f hf => ht.names hids (Graph.hasNode_of_mem_clusters hc hf)

end Tells

/-- names and receivers that are shown have no dot, and no package path goes on as another does with a receiver -/
def PlainNames (p : Program) (g : Graph) : Prop :=
  ∀ u v s t, g.HasNode u → g.HasNode v → p.signature? u = some s → p.signature? v = some t →
    s.Plain ∧ ∀ r ∈ s.receiver, s.path ++ "." ++ r ≠ t.path

theorem qualifiedName?_inj (h : p.InRange) (hids : ∀ f, g.HasNode f → f < p.functions.length) (hplain : PlainNames p g)
    {u v : FunctionId} (hu : g.HasNode u) (hv : g.HasNode v) (hname : p.qualifiedName? u = p.qualifiedName? v) :
    p.signature? u = p.signature? v := by
  obtain ⟨name, hu'⟩ := h.exists_qualifiedName? (hids u hu)
  have hv' := hname ▸ hu'
  rw [Program.qualifiedName?_eq, Option.map_eq_some_iff] at hu' hv'
  obtain ⟨s, hs, rfl⟩ := hu'
  obtain ⟨t, ht, htext⟩ := hv'
  obtain ⟨hsplain, hspath⟩ := hplain u v s t hu hv hs ht
  obtain ⟨htplain, htpath⟩ := hplain v u t s hv hu ht hs
  rw [hs, ht, Program.Signature.eq_of_text_eq hsplain htplain hspath htpath htext.symm]

/-- **What the ids of a listing tell apart.** The graph of a run has a listing. Its ids are pairwise different exactly
if the functions shown have different names, and then all that refers to a function names its node. Two functions of one
signature stand in the way of that, and with plain names nothing else does. -/
theorem ids_tell_apart {s : Settings} (h : p.Loaded) (hg : Analysis.reduce p s = .ok g) :
    ∃ doc, document? p g s.layout = some doc ∧
      ((ids doc).Nodup ↔ ∀ u v, g.HasNode u → g.HasNode v → p.qualifiedName? u = p.qualifiedName? v → u = v) ∧
      ((ids doc).Nodup → NamesFunctions g doc) ∧
      ((ids doc).Nodup → ∀ u v, g.HasNode u → g.HasNode v → p.signature? u = p.signature? v → u = v) ∧
      (PlainNames p g → (∀ u v, g.HasNode u → g.HasNode v → p.signature? u = p.signature? v → u = v) →
        (ids doc).Nodup) := by
  obtain ⟨scope, hs, hfocus, hreduced⟩ := Analysis.exists_reducesTo h.inRange hg
  have hids : ∀ f, g.HasNode f → f < p.functions.length := fun f => hreduced.lt_of_hasNode h.inRange hs
  have hends : ∀ u v, g.HasEdge u v → g.HasNode u ∧ g.HasNode v := fun u v => hreduced.hasNode_of_hasEdge
  obtain ⟨doc, hdoc, htells⟩ := exists_document? h.inRange (hreduced.focus ▸ hfocus) hids hends s.layout
  have hnodup := htells.nodup_ids_iff (hreduced.sorted_ids.nodup Ordered.isOrder_nat)
  refine ⟨doc, hdoc, hnodup, fun hdistinct => htells.namesFunctions hdistinct hends, ?_, ?_⟩
  · intro hdistinct u v hu hv hsame
    exact hnodup.1 hdistinct u v hu hv (by rw [Program.qualifiedName?_eq, Program.qualifiedName?_eq, hsame])
  · intro hplain hsignature
    exact hnodup.2 fun u v hu hv hname => hsignature u v hu hv (qualifiedName?_inj h.inRange hids hplain hu hv hname)

/-- main calls a method -/
def oneFormat : Manifest where
  packages := [{ path := "app", name := some "main" }]
  functions := [{ id := "main", package := "app", name := "main" },
    { id := "debug", package := "app", name := "fmt", receiver := some "Point" }]
  calls := [{ caller := "main", callee := "debug" }]

/-- its program -/
def oneProgram : Program where
  packages := [⟨"app", "main"⟩]
  functions := [{ name := "main", package := 0 }, { name := "fmt", package := 0, receiver := some "Point" }]
  calls := [{ caller := 0, callee := 1 }]
  ownModules := ["app"]
  entryPoints := [0]

/-- and the graph of it -/
def oneGraph : Graph where
  nodes := [⟨0, []⟩, ⟨1, []⟩]
  edges := [{ caller := 0, callee := 1, kinds := [.static], sites := 1 }]

/-- the two functions have two names, and the listing names them -/
theorem ids_tell_apart_one :
    oneProgram.Loaded ∧ Analysis.reduce oneProgram { focus := "" } = .ok oneGraph ∧
      ∃ doc, document? oneProgram oneGraph {} = some doc ∧ (ids doc).Nodup ∧ NamesFunctions oneGraph doc := by
  have hloaded : oneProgram.Loaded := .manifest (show oneFormat.link = .ok oneProgram by rfl)
  have hreduce : Analysis.reduce oneProgram { focus := "" } = .ok oneGraph := by decide +kernel
  obtain ⟨doc, hdoc, hiff, hnames, -⟩ := ids_tell_apart hloaded hreduce
  have hdistinct : (ids doc).Nodup := by
    refine hiff.2 ?_
    rintro u v ⟨n, hn, rfl⟩ ⟨n', hn', rfl⟩
    revert n n'
    decide
  exact ⟨hloaded, hreduce, doc, hdoc, hdistinct, hnames hdistinct⟩

/-- main calls two methods of one name, as two traits can give them to one type -/
def twoFormats : Manifest where
  packages := oneFormat.packages
  functions := oneFormat.functions ++ [{ id := "display", package := "app", name := "fmt", receiver := some "Point" }]
  calls := oneFormat.calls ++ [{ caller := "main", callee := "display" }]

/-- its program -/
def twoProgram : Program :=
  { oneProgram with
    functions := oneProgram.functions ++ [{ name := "fmt", package := 0, receiver := some "Point" }]
    calls := oneProgram.calls ++ [{ caller := 0, callee := 2 }] }

/-- and the graph of it -/
def twoGraph : Graph where
  nodes := oneGraph.nodes ++ [⟨2, []⟩]
  edges := oneGraph.edges ++ [{ caller := 0, callee := 2, kinds := [.static], sites := 1 }]

/-- **Two nodes can have one id.** The manifest declares the methods under two ids and the graph shows both, but the
listing has their nodes under one id. -/
theorem methods_share_id :
    twoFormats.link = .ok twoProgram ∧ Analysis.reduce twoProgram { focus := "" } = .ok twoGraph ∧
      ∃ doc, document? twoProgram twoGraph {} = some doc ∧
        ids doc = [some "app.main", some "app.Point.fmt", some "app.Point.fmt"] ∧ ¬ (ids doc).Nodup := by
  have hloaded : twoProgram.Loaded := .manifest (show twoFormats.link = .ok twoProgram by rfl)
  have hreduce : Analysis.reduce twoProgram { focus := "" } = .ok twoGraph := by decide +kernel
  obtain ⟨scope, hs, hfocus, hreduced⟩ := Analysis.exists_reducesTo hloaded.inRange hreduce
  obtain ⟨doc, hdoc, htells⟩ := exists_document? hloaded.inRange (hreduced.focus ▸ hfocus)
    (fun _ => hreduced.lt_of_hasNode hloaded.inRange hs) (fun _ _ => hreduced.hasNode_of_hasEdge) {}
  have hids : ids doc = [some "app.main", some "app.Point.fmt", some "app.Point.fmt"] :=
    htells.ids.trans (by decide +kernel)
  exact ⟨rfl, hreduce, doc, hdoc, hids, by rw [hids]; decide⟩

end Listing

end CallAtlas
