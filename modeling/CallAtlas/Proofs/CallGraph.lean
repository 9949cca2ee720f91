/-
The raw call graph, and which of its calls a scope asks for.

`HasCall u v` says that some call site of u calls v, `Reaches` makes zero or more calls, a walk is a list of functions
of which each calls the next. All are about the program alone: no filter takes part.

- `eligibleCalls_eq`: the eligible calls are all calls with `Covers` between their ends, in the order of the program.
  So of several calls between the same two functions all are eligible or none is.
- `exists_walk_iff`: a call lies on a walk through a package exactly if its caller comes from the package or its callee
  leads to it.
-/
import Mathlib.Data.List.Chain
import CallAtlas.Proofs.InRange
import CallAtlas.Proofs.Reachability

namespace CallAtlas

open Relation

/-! ## Calls, reachability and walks -/

namespace Program

/-- some call site of u calls v -/
def HasCall (p : Program) (u v : FunctionId) : Prop :=
  ∃ c ∈ p.calls, c.caller = u ∧ c.callee = v

/-- v is reached from u in zero or more calls -/
def Reaches (p : Program) : FunctionId → FunctionId → Prop :=
  ReflTransGen p.HasCall

/-- each function on the list calls the next -/
def IsWalk (p : Program) (w : List FunctionId) : Prop :=
  w.IsChain p.HasCall

/-- a function is the caller or the callee of some call -/
def TakesPart (p : Program) (f : FunctionId) : Prop :=
  ∃ c ∈ p.calls, c.caller = f ∨ c.callee = f

instance (p : Program) (u v : FunctionId) : Decidable (p.HasCall u v) := by
  unfold HasCall; infer_instance

instance (p : Program) (f : FunctionId) : Decidable (p.TakesPart f) := by
  unfold TakesPart; infer_instance

/-- a function exists and its package is the given one -/
def DefinedIn (p : Program) (package : PackageId) (id : FunctionId) : Prop :=
  ∃ f, p.functions[id]? = some f ∧ f.package = package

/-- a function reaches a function of the package -/
def LeadsTo (p : Program) (package : PackageId) (f : FunctionId) : Prop :=
  ∃ s, p.DefinedIn package s ∧ p.Reaches f s

/-- a function is reached from a function of the package -/
def ComesFrom (p : Program) (package : PackageId) (f : FunctionId) : Prop :=
  ∃ s, p.DefinedIn package s ∧ p.Reaches s f

variable {p : Program} {package : PackageId} {f u v : FunctionId}

theorem DefinedIn.lt_length (h : p.DefinedIn package f) : f < p.functions.length := by
  obtain ⟨g, hg, -⟩ := h
  exact (List.getElem?_eq_some_iff.1 hg).1

theorem LeadsTo.head (huv : p.HasCall u v) (h : p.LeadsTo package v) : p.LeadsTo package u := by
  obtain ⟨s, hs, hvs⟩ := h
  exact ⟨s, hs, ReflTransGen.head huv hvs⟩

theorem ComesFrom.tail (h : p.ComesFrom package u) (huv : p.HasCall u v) : p.ComesFrom package v := by
  obtain ⟨s, hs, hsu⟩ := h
  exact ⟨s, hs, ReflTransGen.tail hsu huv⟩

theorem HasCall.caller_takesPart (h : p.HasCall u v) : p.TakesPart u := by
  obtain ⟨c, hc, rfl, -⟩ := h
  exact ⟨c, hc, Or.inl rfl⟩

theorem HasCall.callee_takesPart (h : p.HasCall u v) : p.TakesPart v := by
  obtain ⟨c, hc, -, rfl⟩ := h
  exact ⟨c, hc, Or.inr rfl⟩

/-! ## Walks through a package -/

theorem exists_walk_of_reaches (h : p.Reaches u v) : ∃ l, p.IsWalk (u :: l) ∧ ∃ a, u :: l = a ++ [v] := by
  obtain ⟨l, hl, hlast⟩ := List.exists_isChain_cons_of_relationReflTransGen h
  refine ⟨l, hl, (u :: l).dropLast, ?_⟩
  rw [← hlast, List.dropLast_append_getLast]

/-- on a walk, each function reaches all that follow -/
theorem IsWalk.pairwise {w : List FunctionId} (h : p.IsWalk w) : w.Pairwise p.Reaches :=
  haveI : Trans p.Reaches p.Reaches p.Reaches := ⟨ReflTransGen.trans⟩
  List.isChain_iff_pairwise.1 (h.imp fun _ _ => ReflTransGen.single)

/-- **Walks through a package.** A call lies on a walk that visits the package exactly if its caller comes from the
package or its callee leads to it. -/
theorem exists_walk_iff (huv : p.HasCall u v) :
    (∃ w, p.IsWalk w ∧ [u, v] <:+: w ∧ ∃ s ∈ w, p.DefinedIn package s) ↔
      p.ComesFrom package u ∨ p.LeadsTo package v := by
  constructor
  · rintro ⟨w, hw, ⟨a, b, rfl⟩, s, hs, hdef⟩
    -- the visit is before the call, at one of its ends or after it
    obtain ⟨hab, -, hbefore⟩ := List.pairwise_append.1 hw.pairwise
    obtain ⟨-, -, hcall⟩ := List.pairwise_append.1 hab
    simp only [List.append_assoc, List.cons_append, List.nil_append, List.mem_append, List.mem_cons] at hs
    rcases hs with hs | rfl | rfl | hs
    · exact Or.inl ⟨s, hdef, hcall s hs u (by simp)⟩
    · exact Or.inl ⟨s, hdef, ReflTransGen.refl⟩
    · exact Or.inr ⟨s, hdef, ReflTransGen.refl⟩
    · exact Or.inr ⟨s, hdef, hbefore v (by simp) s hs⟩
  · rintro (⟨s, hdef, hsu⟩ | ⟨s, hdef, hvs⟩)
    · obtain ⟨l, hl, a, ha⟩ := exists_walk_of_reaches hsu
      have hs : s ∈ a ++ [u] := ha ▸ List.mem_cons_self
      refine ⟨a ++ [u, v], ?_, List.suffix_append a [u, v] |>.isInfix, s, ?_, hdef⟩
      · rw [ha] at hl
        exact List.isChain_append_cons_cons.2 ⟨hl, huv, List.isChain_singleton v⟩
      · rcases List.mem_append.1 hs with hs | hs
        · exact List.mem_append_left _ hs
        · exact List.mem_append_right _ (List.mem_cons.2 (Or.inl (List.mem_singleton.1 hs)))
    · obtain ⟨l, hl, a, ha⟩ := exists_walk_of_reaches hvs
      have hs : s ∈ v :: l := ha ▸ List.mem_append_right a (List.mem_singleton.2 rfl)
      refine ⟨u :: v :: l, List.isChain_cons_cons.2 ⟨huv, hl⟩, ?_, s, List.mem_cons_of_mem u hs, hdef⟩
      exact (List.prefix_append [u, v] l).isInfix

/-! ## The tables of the search -/

theorem mem_definedIn : f ∈ p.definedIn package ↔ p.DefinedIn package f := by
  simp only [definedIn, DefinedIn, List.mem_filterMap, Prod.exists, List.mem_zipIdx_iff_getElem?]
  constructor
  · rintro ⟨g, i, hg, hi⟩
    split_ifs at hi with hk
    cases hi
    exact ⟨g, hg, hk⟩
  · rintro ⟨g, hg, hk⟩
    exact ⟨g, f, hg, if_pos hk⟩

section Neighbours

variable {near far : Call → FunctionId}

theorem step_neighbours :
    (p.neighbours near far).Step u v ↔ u < p.functions.length ∧ ∃ c ∈ p.calls, near c = u ∧ far c = v := by
  by_cases hu : u < p.functions.length
  · simp [Table.Step, Table.next, neighbours, hu, and_assoc]
  · simp [Table.Step, Table.next, neighbours, hu]

/-- the search along calls from their near to their far ends finds what the seeds reach that way -/
theorem has_closure_neighbours (hends : ∀ c ∈ p.calls, near c < p.functions.length ∧ far c < p.functions.length)
    {seeds : List FunctionId} :
    (closure (p.neighbours near far) seeds).has f = true ↔
      ∃ s ∈ seeds, s < p.functions.length ∧ ReflTransGen (fun u v => ∃ c ∈ p.calls, near c = u ∧ far c = v) s f := by
  have hlen : (p.neighbours near far).length = p.functions.length := by simp [neighbours]
  have hstep : (p.neighbours near far).Step = fun u v => ∃ c ∈ p.calls, near c = u ∧ far c = v := by
    funext u v
    refine propext (step_neighbours.trans (and_iff_right_of_imp ?_))
    rintro ⟨c, hc, rfl, -⟩
    exact (hends c hc).1
  have hin : (p.neighbours near far).InRange := by
    intro u v huv
    obtain ⟨-, c, hc, -, rfl⟩ := step_neighbours.1 huv
    exact hlen ▸ (hends c hc).2
  rw [has_closure hin, hlen, Table.Reaches, hstep]

end Neighbours

/-- following callees finds what the seeds reach -/
theorem InRange.has_closure_callees (h : p.InRange) {seeds : List FunctionId} :
    (closure p.callees seeds).has f = true ↔ ∃ s ∈ seeds, s < p.functions.length ∧ p.Reaches s f :=
  has_closure_neighbours h.calls

/-- following callers finds what reaches the seeds -/
theorem InRange.has_closure_callers (h : p.InRange) {seeds : List FunctionId} :
    (closure p.callers seeds).has f = true ↔ ∃ s ∈ seeds, s < p.functions.length ∧ p.Reaches f s := by
  have hswap : Function.swap p.HasCall = fun v u => ∃ c ∈ p.calls, c.callee = v ∧ c.caller = u := by
    funext v u
    simp only [Function.swap, HasCall, and_comm]
  rw [callers, has_closure_neighbours fun c hc => (h.calls c hc).symm, ← hswap]
  simp only [reflTransGen_swap, Reaches]

theorem InRange.mem_descendants (h : p.InRange) :
    (closure p.callees (p.definedIn package)).has f = true ↔ p.ComesFrom package f := by
  rw [h.has_closure_callees]
  exact exists_congr fun s => ⟨fun ⟨hd, _, hr⟩ => ⟨mem_definedIn.1 hd, hr⟩,
    fun ⟨hd, hr⟩ => ⟨mem_definedIn.2 hd, hd.lt_length, hr⟩⟩

theorem InRange.mem_ancestors (h : p.InRange) :
    (closure p.callers (p.definedIn package)).has f = true ↔ p.LeadsTo package f := by
  rw [h.has_closure_callers]
  exact exists_congr fun s => ⟨fun ⟨hd, _, hr⟩ => ⟨mem_definedIn.1 hd, hr⟩,
    fun ⟨hd, hr⟩ => ⟨mem_definedIn.2 hd, hd.lt_length, hr⟩⟩

/-! ## Eligible calls -/

/-- a scope asks for the calls from u to v -/
def Covers (p : Program) (u v : FunctionId) : Scope → Prop
  | .focus package => p.ComesFrom package u ∨ p.LeadsTo package v
  | .roots functions => ∃ r ∈ functions, p.Reaches r u

open Classical in
/-- **The eligible calls.** They are the calls of the program, in its order, with ends that the scope covers. -/
theorem InRange.eligibleCalls_eq (h : p.InRange) {scope : Scope} (hs : scope.InRange p) :
    p.eligibleCalls scope = p.calls.filter fun c => p.Covers c.caller c.callee scope := by
  cases scope with
  | focus package =>
    refine List.filter_congr fun c _ => ?_
    rw [Bool.eq_iff_iff, decide_eq_true_iff]
    simp [Covers, h.mem_descendants, h.mem_ancestors]
  | roots functions =>
    refine List.filter_congr fun c _ => ?_
    have hreach : (closure p.callees functions).has c.caller = true ↔ ∃ r ∈ functions, p.Reaches r c.caller := by
      rw [h.has_closure_callees]
      exact exists_congr fun r => and_congr_right fun hr => and_iff_right (hs r hr)
    rw [Bool.eq_iff_iff, decide_eq_true_iff]
    simp [Covers, hreach]

theorem InRange.mem_eligibleCalls (h : p.InRange) {scope : Scope} (hs : scope.InRange p)
    {c : Call} : c ∈ p.eligibleCalls scope ↔ c ∈ p.calls ∧ p.Covers c.caller c.callee scope := by
  classical
  rw [h.eligibleCalls_eq hs, List.mem_filter, decide_eq_true_iff]

end Program

end CallAtlas
