/-
Calls joined into edges.

`Collapsed calls edges` says that the edges are the calls, summed up: one edge for each pair of functions with a call
between them, in ascending order, and each edge with exactly the kinds and the number of the calls between its ends.
- `collapsed_joinCall`: one more call keeps it, whichever calls came before.
- `collapsed_edgesOf`: so it holds of the edges of any list of calls, in any order.
The last field, `total`, is the balance: no call is lost and none counts twice.

The converse is `mem_edgesOf`: what sums up the calls between two functions is their edge. So edges depend on the calls
between their ends alone, and not on the order of the calls (`edgesOf_perm`) nor on what calls there are between other
functions (`edgesOf_filter`).

A call joins the edge of its ends as any entry joins the one that has its key (`joinEntry`).
-/
import Mathlib.Algebra.Order.Ring.Nat
import Mathlib.Data.List.Induction
import Mathlib.Data.List.Sort
import CallAtlas.Edge

namespace CallAtlas

/-! ## Ascending lists -/

namespace Ordered

/-- lists that ascend by a key and have the same elements are equal -/
theorem eq_of_mem_iff_of_sorted_map {α β : Type} {before : β → β → Bool} (h : IsOrder before) {key : α → β}
    {xs ys : List α} (hxs : Sorted before (xs.map key)) (hys : Sorted before (ys.map key))
    (hmem : ∀ x, x ∈ xs ↔ x ∈ ys) : xs = ys := by
  have hirrefl : Std.Irrefl fun a b => before (key a) (key b) = true := ⟨fun a hab => h.ne hab rfl⟩
  have hantisymm : Std.Antisymm fun a b => before (key a) (key b) = true := by
    constructor
    intro a b hab hba
    exact absurd rfl (h.ne (h.trans _ _ _ hab hba))
  exact List.Pairwise.eq_of_mem_iff (List.pairwise_map.1 hxs) (List.pairwise_map.1 hys) hmem

/-- ascending lists with the same elements are equal -/
theorem Sorted.eq_of_mem_iff {α : Type} {before : α → α → Bool} (h : IsOrder before) {xs ys : List α}
    (hxs : Sorted before xs) (hys : Sorted before ys) (hmem : ∀ x, x ∈ xs ↔ x ∈ ys) : xs = ys := by
  rw [← List.map_id xs] at hxs
  rw [← List.map_id ys] at hys
  exact eq_of_mem_iff_of_sorted_map h hxs hys hmem

/-! ### Entries under keys -/

/-- an entry joined to the one that has its key, or put in its place if there is none -/
def joinEntry {α κ : Type} (before : κ → κ → Bool) (key : α → κ) (new : α) (join : α → α) : List α → List α
  | [] => [new]
  | a :: r =>
    if before (key new) (key a) then new :: a :: r
    else if before (key a) (key new) then a :: joinEntry before key new join r
    else join a :: r

/-- the keys grow as an ascending list does -/
theorem map_key_joinEntry {α κ : Type} {before : κ → κ → Bool} {key : α → κ} {new : α} {join : α → α} {xs : List α}
    (hjoin : ∀ a, key (join a) = key a) :
    (joinEntry before key new join xs).map key = insert before (key new) (xs.map key) := by
  induction xs with
  | nil => rfl
  | cons a r ih =>
    simp only [joinEntry, insert, List.map_cons]
    split
    · rfl
    · split
      · rw [List.map_cons, ih]
      · rw [List.map_cons, hjoin]

/-- where an entry comes from: it was there under another key, it was there and was joined, or it is new -/
theorem mem_joinEntry {α κ : Type} {before : κ → κ → Bool} (h : IsOrder before) {key : α → κ} {new x : α}
    {join : α → α} {xs : List α} (hs : Sorted before (xs.map key)) (hx : x ∈ joinEntry before key new join xs) :
    (x ∈ xs ∧ key new ≠ key x) ∨ (∃ a ∈ xs, key new = key a ∧ x = join a) ∨
      ((∀ a ∈ xs, key new ≠ key a) ∧ x = new) := by
  induction xs with
  | nil =>
    rw [joinEntry, List.mem_singleton] at hx
    exact Or.inr (Or.inr ⟨by simp, hx⟩)
  | cons b r ih =>
    obtain ⟨hfirst, hr⟩ := List.pairwise_cons.1 hs
    replace hfirst : ∀ a ∈ r, before (key b) (key a) = true := fun a ha => hfirst _ (List.mem_map_of_mem ha)
    rw [joinEntry] at hx
    split at hx
    next hbefore =>
      -- the key is before all others
      have hne : ∀ a ∈ b :: r, key new ≠ key a := by
        intro a ha
        rcases List.mem_cons.1 ha with rfl | ha
        · exact h.ne hbefore
        · exact h.ne (h.trans _ _ _ hbefore (hfirst a ha))
      rcases List.mem_cons.1 hx with rfl | hx
      · exact Or.inr (Or.inr ⟨hne, rfl⟩)
      · exact Or.inl ⟨hx, hne x hx⟩
    next hbefore =>
      split at hx
      next hafter =>
        have hne : key new ≠ key b := (h.ne hafter).symm
        rcases List.mem_cons.1 hx with rfl | hx
        · exact Or.inl ⟨List.mem_cons_self, hne⟩
        · rcases ih hr hx with ⟨hx, hnew⟩ | ⟨a, ha, hnew, rfl⟩ | ⟨hall, rfl⟩
          · exact Or.inl ⟨List.mem_cons_of_mem _ hx, hnew⟩
          · exact Or.inr (Or.inl ⟨a, List.mem_cons_of_mem _ ha, hnew, rfl⟩)
          · exact Or.inr (Or.inr ⟨List.forall_mem_cons.2 ⟨hne, hall⟩, rfl⟩)
      next hafter =>
        have heq : key new = key b := h.tri _ _ (by simpa using hbefore) (by simpa using hafter)
        rcases List.mem_cons.1 hx with rfl | hx
        · exact Or.inr (Or.inl ⟨b, List.mem_cons_self, heq, rfl⟩)
        · exact Or.inl ⟨List.mem_cons_of_mem _ hx, heq ▸ h.ne (hfirst x hx)⟩

end Ordered

/-! ## One edge -/

/-- an edge has the kinds and the number of the calls between its ends -/
structure Edge.Sums (calls : List Call) (e : Edge) : Prop where
  sorted : Ordered.Sorted CallKind.before e.kinds
  mem_kinds : ∀ k, k ∈ e.kinds ↔ ∃ c ∈ calls, c.ends = e.ends ∧ c.kind = k
  sites : e.sites = calls.countP fun c => c.ends = e.ends

namespace Edge.Sums

variable {calls : List Call} {e : Edge} {c : Call}

theorem between {ends : FunctionId × FunctionId} (h : ∀ c ∈ calls, c.ends ≠ ends) : (between ends).Sums calls where
  sorted := List.Pairwise.nil
  mem_kinds k := by
    constructor
    · intro hk
      cases hk
    · rintro ⟨c, hc, hends, -⟩
      exact absurd hends (h c hc)
  sites := by
    refine (List.countP_eq_zero.2 fun c hc => ?_).symm
    rw [ends_between, decide_eq_true_iff]
    exact h c hc

theorem join (h : e.Sums calls) (hc : c.ends = e.ends) : (e.join c).Sums (calls ++ [c]) where
  sorted := Ordered.sorted_insert CallKind.isOrder_before h.sorted
  mem_kinds k := by
    rw [mem_kinds_join, h.mem_kinds, ends_join]
    constructor
    · rintro (rfl | ⟨d, hd, hends, hk⟩)
      · exact ⟨c, by simp, hc, rfl⟩
      · exact ⟨d, List.mem_append_left _ hd, hends, hk⟩
    · rintro ⟨d, hd, hends, rfl⟩
      rcases List.mem_append.1 hd with hd | hd
      · exact Or.inr ⟨d, hd, hends, rfl⟩
      · rw [List.mem_singleton.1 hd]
        exact Or.inl rfl
  sites := by
    rw [sites_join, ends_join, List.countP_append, h.sites]
    simp [hc]

theorem of_ne (h : e.Sums calls) (hc : c.ends ≠ e.ends) : e.Sums (calls ++ [c]) where
  sorted := h.sorted
  mem_kinds k := by
    rw [h.mem_kinds]
    constructor
    · rintro ⟨d, hd, hends, hk⟩
      exact ⟨d, List.mem_append_left _ hd, hends, hk⟩
    · rintro ⟨d, hd, hends, hk⟩
      rcases List.mem_append.1 hd with hd | hd
      · exact ⟨d, hd, hends, hk⟩
      · rw [List.mem_singleton.1 hd] at hends
        exact absurd hends hc
  sites := by
    rw [List.countP_append, h.sites]
    simp [hc]

/-- two functions have one edge that sums up the calls between them -/
theorem unique {e' : Edge} (h : e.Sums calls) (h' : e'.Sums calls) (hends : e.ends = e'.ends) : e = e' := by
  have hkinds : e.kinds = e'.kinds := by
    apply Ordered.Sorted.eq_of_mem_iff CallKind.isOrder_before h.sorted h'.sorted
    intro k
    rw [h.mem_kinds, h'.mem_kinds, hends]
  have hsites : e.sites = e'.sites := by rw [h.sites, h'.sites, hends]
  obtain ⟨hcaller, hcallee⟩ := Prod.mk.inj hends
  cases e
  cases e'
  simp_all

/-- an edge sums up the calls between its ends, in any order and among any others -/
theorem of_perm {calls' : List Call} (h : e.Sums calls)
    (hperm : (calls.filter fun c => c.ends = e.ends).Perm (calls'.filter fun c => c.ends = e.ends)) :
    e.Sums calls' where
  sorted := h.sorted
  mem_kinds k := by
    have hmem : ∀ c, (c ∈ calls ∧ c.ends = e.ends) ↔ (c ∈ calls' ∧ c.ends = e.ends) := by
      intro c
      simpa using hperm.mem_iff (a := c)
    rw [h.mem_kinds]
    constructor
    · rintro ⟨c, hc, hends, hk⟩
      exact ⟨c, ((hmem c).1 ⟨hc, hends⟩).1, hends, hk⟩
    · rintro ⟨c, hc, hends, hk⟩
      exact ⟨c, ((hmem c).2 ⟨hc, hends⟩).1, hends, hk⟩
  sites := by
    rw [h.sites, List.countP_eq_length_filter, List.countP_eq_length_filter]
    exact hperm.length_eq

end Edge.Sums

/-! ## One more call -/

section JoinCall

variable {edges : List Edge} {c : Call}

/-- a call joins the edge of its ends, or makes a new one -/
theorem joinCall_eq_joinEntry :
    joinCall edges c =
      Ordered.joinEntry Edge.endsBefore Edge.ends ((Edge.between c.ends).join c) (fun e => e.join c) edges := by
  induction edges with
  | nil => rfl
  | cons e r ih => rw [joinCall, Ordered.joinEntry, ih, Edge.ends_join, Edge.ends_between]

/-- the ends of the edges grow as an ordered list does -/
theorem map_ends_joinCall :
    (joinCall edges c).map Edge.ends = Ordered.insert Edge.endsBefore c.ends (edges.map Edge.ends) := by
  rw [joinCall_eq_joinEntry, Ordered.map_key_joinEntry fun e => Edge.ends_join e c, Edge.ends_join, Edge.ends_between]

theorem sum_sites_joinCall : ((joinCall edges c).map Edge.sites).sum = (edges.map Edge.sites).sum + 1 := by
  induction edges with
  | nil => rfl
  | cons e r ih =>
    simp only [joinCall]
    split_ifs
    · simp only [List.map_cons, List.sum_cons, Edge.sites_join, Edge.between]
      omega
    · simp only [List.map_cons, List.sum_cons, ih]
      omega
    · simp only [List.map_cons, List.sum_cons, Edge.sites_join]
      omega

/-- where an edge comes from: it was there and has other ends, it was there and the call joined it, or it is new -/
theorem mem_joinCall (hs : Ordered.Sorted Edge.endsBefore (edges.map Edge.ends)) {e : Edge}
    (he : e ∈ joinCall edges c) :
    (e ∈ edges ∧ c.ends ≠ e.ends) ∨ (∃ e' ∈ edges, c.ends = e'.ends ∧ e = e'.join c) ∨
      ((∀ e' ∈ edges, c.ends ≠ e'.ends) ∧ e = (Edge.between c.ends).join c) := by
  rw [joinCall_eq_joinEntry] at he
  exact Ordered.mem_joinEntry Edge.isOrder_ends hs he

end JoinCall

/-! ## All calls -/

/-- the edges are the calls, summed up by their ends -/
structure Collapsed (calls : List Call) (edges : List Edge) : Prop where
  sorted : Ordered.Sorted Edge.endsBefore (edges.map Edge.ends)
  mem_ends : ∀ ends, ends ∈ edges.map Edge.ends ↔ ends ∈ calls.map Call.ends
  sums : ∀ e ∈ edges, e.Sums calls
  total : (edges.map Edge.sites).sum = calls.length

theorem collapsed_joinCall {calls : List Call} {edges : List Edge} (h : Collapsed calls edges) (c : Call) :
    Collapsed (calls ++ [c]) (joinCall edges c) where
  sorted := by
    rw [map_ends_joinCall]
    exact Ordered.sorted_insert Edge.isOrder_ends h.sorted
  mem_ends ends := by
    rw [map_ends_joinCall, Ordered.mem_insert Edge.isOrder_ends, h.mem_ends, List.map_append, List.mem_append,
      List.map_singleton, List.mem_singleton, or_comm]
  sums e he := by
    rcases mem_joinCall h.sorted he with ⟨he, hne⟩ | ⟨e', he', heq, rfl⟩ | ⟨hall, rfl⟩
    · exact (h.sums e he).of_ne hne
    · exact (h.sums e' he').join heq
    · refine (Edge.Sums.between fun d hd hends => ?_).join rfl
      -- a call with these ends would have an edge already
      obtain ⟨e', he', hends'⟩ := List.mem_map.1 ((h.mem_ends _).2 (List.mem_map_of_mem hd))
      exact hall e' he' (hends'.trans hends).symm
  total := by rw [sum_sites_joinCall, h.total, List.length_append, List.length_singleton]

/-- **Nothing is lost in edges, and nothing counts twice.** The edges of a list of calls sum it up. -/
theorem collapsed_edgesOf (calls : List Call) : Collapsed calls (edgesOf calls) := by
  induction calls using List.reverseRecOn with
  | nil => exact ⟨List.Pairwise.nil, by simp [edgesOf], by simp [edgesOf], rfl⟩
  | append_singleton calls c ih =>
    rw [edgesOf, List.foldl_append]
    exact collapsed_joinCall ih c

/-! ## Edges from their calls -/

section EdgesOf

variable {calls calls' : List Call} {e : Edge}

/-- **The edges of calls.** An edge is among them exactly if there is a call between its ends and it sums up these. -/
theorem mem_edgesOf : e ∈ edgesOf calls ↔ e.ends ∈ calls.map Call.ends ∧ e.Sums calls := by
  have hcollapsed : Collapsed calls (edgesOf calls) := collapsed_edgesOf calls
  constructor
  · intro he
    exact ⟨(hcollapsed.mem_ends _).1 (List.mem_map_of_mem he), hcollapsed.sums e he⟩
  · rintro ⟨hends, hsums⟩
    obtain ⟨e', he', hends'⟩ := List.mem_map.1 ((hcollapsed.mem_ends _).2 hends)
    rwa [hsums.unique (hcollapsed.sums e' he') hends'.symm]

theorem sorted_edgesOf (calls : List Call) : Ordered.Sorted Edge.endsBefore ((edgesOf calls).map Edge.ends) :=
  (collapsed_edgesOf calls).sorted

/-- the order of the calls does not matter -/
theorem edgesOf_perm (h : calls.Perm calls') : edgesOf calls = edgesOf calls' := by
  apply Ordered.eq_of_mem_iff_of_sorted_map Edge.isOrder_ends (sorted_edgesOf calls) (sorted_edgesOf calls')
  intro e
  have hsums : e.Sums calls ↔ e.Sums calls' :=
    ⟨fun hsums => hsums.of_perm (h.filter _), fun hsums => hsums.of_perm (h.symm.filter _)⟩
  rw [mem_edgesOf, mem_edgesOf, (h.map Call.ends).mem_iff, hsums]

/-- the calls between some pairs of functions make up the edges between these pairs -/
theorem edgesOf_filter (P : FunctionId × FunctionId → Bool) (calls : List Call) :
    edgesOf (calls.filter fun c => P c.ends) = (edgesOf calls).filter fun e => P e.ends := by
  have hsorted : Ordered.Sorted Edge.endsBefore (((edgesOf calls).filter fun e => P e.ends).map Edge.ends) :=
    (sorted_edgesOf calls).sublist (List.filter_sublist.map Edge.ends)
  apply Ordered.eq_of_mem_iff_of_sorted_map Edge.isOrder_ends (sorted_edgesOf _) hsorted
  intro e
  rw [List.mem_filter, mem_edgesOf, mem_edgesOf]
  -- with a call between the ends of e, all calls between them are in the part, or none is
  have hends : e.ends ∈ (calls.filter fun c => P c.ends).map Call.ends ↔
      e.ends ∈ calls.map Call.ends ∧ P e.ends = true := by
    simp only [List.mem_map, List.mem_filter]
    constructor
    · rintro ⟨c, ⟨hc, hP⟩, hce⟩
      exact ⟨⟨c, hc, hce⟩, hce ▸ hP⟩
    · rintro ⟨⟨c, hc, hce⟩, hP⟩
      exact ⟨c, ⟨hc, hce ▸ hP⟩, hce⟩
  have hsame : P e.ends = true →
      ((calls.filter fun c => P c.ends).filter fun c => c.ends = e.ends) = calls.filter fun c => c.ends = e.ends := by
    intro hP
    rw [List.filter_filter]
    refine List.filter_congr fun c _ => ?_
    by_cases hce : c.ends = e.ends
    · simp [hce, hP]
    · simp [hce]
  constructor
  · rintro ⟨hmem, hsums⟩
    obtain ⟨hmem, hP⟩ := hends.1 hmem
    exact ⟨⟨hmem, hsums.of_perm (.of_eq (hsame hP))⟩, hP⟩
  · rintro ⟨⟨hmem, hsums⟩, hP⟩
    exact ⟨hends.2 ⟨hmem, hP⟩, hsums.of_perm (.of_eq (hsame hP).symm)⟩

end EdgesOf

end CallAtlas
