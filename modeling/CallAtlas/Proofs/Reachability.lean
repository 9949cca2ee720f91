/-
What a search finds.

A table is a directed graph: `Step` goes from a node to one of its successors, `Reaches` makes zero or more steps. All
graphs are allowed, with circles, self loops and repeated successors.
- `Search.Lined`: the marked nodes are those that got in line, each once. Meeting a node keeps this (`Lined.meet`), and
  lets it in line if it is a node of the table.
- `Search.Sound`: what holds after every step. The seeds are in line, who is in line can be reached, and the successors
  of who was served are in line. The start has it (`sound_start`), and a step keeps it (`Sound.step`).
- `Search.Rounds`: steps one after another. The search is such a run to the point where nobody waits
  (`exists_rounds_run`), so at its end all successors of nodes in line are in line (`Sound.closed`).
- `has_closure`: a node is marked exactly if a seed that is a node reaches it.
- `closure_exact`: the search as a whole, with the number of its steps.
-/
import Mathlib.Data.List.Nodup
import Mathlib.Logic.Relation
import CallAtlas.Reach

namespace CallAtlas

open Relation

/-! ## The graph of a table -/

namespace Table

/-- v is a successor of u -/
def Step (t : Table) (u v : Nat) : Prop :=
  v ∈ t.next u

/-- v can be reached from u in zero or more steps -/
def Reaches (t : Table) : Nat → Nat → Prop :=
  ReflTransGen t.Step

/-- every successor is a node of the table -/
def InRange (t : Table) : Prop :=
  ∀ u v, t.Step u v → v < t.length

theorem inRange_iff {t : Table} : t.InRange ↔ ∀ vs ∈ t, ∀ v ∈ vs, v < t.length := by
  constructor
  · intro h vs hvs v hv
    obtain ⟨u, hu⟩ := List.getElem?_of_mem hvs
    exact h u v (by simpa [Step, next, hu] using hv)
  · intro h u v huv
    cases hu : t[u]? with
    | none => simp [Step, next, hu] at huv
    | some vs => exact h vs (List.mem_of_getElem? hu) v (by simpa [Step, next, hu] using huv)

instance (t : Table) : Decidable t.InRange :=
  decidable_of_iff _ inRange_iff.symm

end Table

namespace Search

variable {t : Table} {seeds : List Nat} {s s' : Search} {n : Nat}

/-! ## Meeting nodes -/

/-- the marked nodes are those that got in line, each once -/
structure Lined (t : Table) (s : Search) : Prop where
  length : s.marks.length = t.length
  nodup : s.line.Nodup
  has_iff : ∀ x, s.marks.has x = true ↔ x ∈ s.line

theorem Lined.lt_length (h : s.Lined t) {x : Nat} (hx : x ∈ s.line) : x < t.length := by
  have hmark := (h.has_iff x).2 hx
  rw [← h.length]
  apply Nat.lt_of_not_le
  intro hle
  simp [Marks.has, List.getElem?_eq_none hle] at hmark

/-- so no more nodes get in line than there are -/
theorem Lined.length_line_le (h : s.Lined t) : s.line.length ≤ t.length := by
  have hsub : s.line ⊆ List.range t.length := fun x hx => List.mem_range.2 (h.lt_length hx)
  simpa using List.Nodup.length_le_of_subset h.nodup hsub

theorem Lined.meet (h : s.Lined t) (v : Nat) :
    (s.meet v).Lined t ∧ ∀ x, x ∈ (s.meet v).line ↔ x ∈ s.line ∨ x = v ∧ v < t.length := by
  have hmark := h.has_iff v
  unfold Search.meet
  split
  next hv =>
    -- v has no mark, so it is not in line yet
    have hlt : v < s.marks.length := (List.getElem?_eq_some_iff.1 hv).1
    have hnew : v ∉ s.line := fun hmem => by simp [Marks.has, hv] at hmark; exact hmark hmem
    refine ⟨⟨by simp [h.length], ?_, fun x => ?_⟩, fun x => ?_⟩
    · exact List.nodup_append.2 ⟨h.nodup, List.pairwise_singleton _ _, fun a ha b hb hab =>
        hnew (List.mem_singleton.1 hb ▸ hab ▸ ha)⟩
    · rw [List.mem_append, List.mem_singleton, ← h.has_iff x]
      by_cases hx : x = v
      · simp [Marks.has, hx, hlt]
      · simp [Marks.has, hx, Ne.symm hx]
    · simp [← h.length, hlt]
  next hv =>
    -- v has its mark, or is outside the table
    refine ⟨h, fun x => ⟨Or.inl, ?_⟩⟩
    rintro (hx | ⟨rfl, hlt⟩)
    · exact hx
    · rw [← h.length] at hlt
      refine hmark.1 ?_
      cases hb : s.marks[x] with
      | false => exact absurd (List.getElem?_eq_some_iff.2 ⟨hlt, hb⟩) hv
      | true => simp [Marks.has, hlt, hb]

theorem Lined.foldl_meet (h : s.Lined t) (vs : List Nat) :
    (vs.foldl Search.meet s).Lined t ∧
      ∀ x, x ∈ (vs.foldl Search.meet s).line ↔ x ∈ s.line ∨ x ∈ vs ∧ x < t.length := by
  induction vs generalizing s with
  | nil => exact ⟨h, by simp⟩
  | cons v vs ih =>
    obtain ⟨hmeet, hline⟩ := h.meet v
    obtain ⟨hrest, hlines⟩ := ih hmeet
    refine ⟨hrest, fun x => ?_⟩
    rw [List.foldl_cons, hlines, hline, List.mem_cons]
    constructor
    · rintro ((hx | ⟨rfl, hlt⟩) | ⟨hx, hlt⟩)
      · exact Or.inl hx
      · exact Or.inr ⟨Or.inl rfl, hlt⟩
      · exact Or.inr ⟨Or.inr hx, hlt⟩
    · rintro (hx | ⟨rfl | hx, hlt⟩)
      · exact Or.inl (Or.inl hx)
      · exact Or.inl (Or.inr ⟨rfl, hlt⟩)
      · exact Or.inr ⟨hx, hlt⟩

/-! ## Steps -/

/-- what holds of a search from some seeds after every step -/
structure Sound (t : Table) (seeds : List Nat) (s : Search) : Prop where
  lined : s.Lined t
  /-- every seed is in line -/
  seeded : ∀ r ∈ seeds, r < t.length → r ∈ s.line
  /-- who is in line can be reached from a seed -/
  reached : ∀ x ∈ s.line, ∃ r ∈ seeds, r < t.length ∧ t.Reaches r x
  /-- the successors of who was served are in line -/
  followed : ∀ u ∈ s.line.take s.served, ∀ v, t.Step u v → v < t.length → v ∈ s.line
  /-- who was served is in line -/
  served_le : s.served ≤ s.line.length

theorem lined_blank (t : Table) : (⟨List.replicate t.length false, [], 0⟩ : Search).Lined t where
  length := List.length_replicate
  nodup := List.nodup_nil
  has_iff x := by
    by_cases hx : x < t.length <;> simp [Marks.has, hx]

theorem sound_start (t : Table) (seeds : List Nat) : (start t seeds).Sound t seeds := by
  obtain ⟨hlined, hline⟩ := (lined_blank t).foldl_meet seeds
  constructor
  case lined => exact hlined
  case seeded => exact fun r hr hlt => (hline r).2 (Or.inr ⟨hr, hlt⟩)
  case reached =>
    intro x hx
    rcases (hline x).1 hx with hx | ⟨hx, hlt⟩
    · cases hx
    · exact ⟨x, hx, hlt, ReflTransGen.refl⟩
  case followed =>
    intro u hu
    simp [start, served_foldl_meet] at hu
  case served_le => simp [start, served_foldl_meet]

/-- **A step keeps what holds.** Who is served can be reached, so his successors can be. -/
theorem Sound.step (h : s.Sound t seeds) (hstep : s.step? t = some s') : s'.Sound t seeds := by
  obtain ⟨u, hu, rfl⟩ := step?_eq_some hstep
  have hlined : ({ s with served := s.served + 1 } : Search).Lined t := ⟨h.lined.length, h.lined.nodup, h.lined.has_iff⟩
  obtain ⟨hlined', hline⟩ := hlined.foldl_meet (t.next u)
  have hprefix : s.line <+: ((t.next u).foldl meet { s with served := s.served + 1 }).line :=
    prefix_line_foldl_meet (t.next u) { s with served := s.served + 1 }
  have hlt : s.served < s.line.length := (List.getElem?_eq_some_iff.1 hu).1
  constructor
  case lined => exact hlined'
  case seeded => exact fun r hr hlt => hprefix.subset (h.seeded r hr hlt)
  case reached =>
    intro x hx
    rcases (hline x).1 hx with hx | ⟨hux, -⟩
    · exact h.reached x hx
    · obtain ⟨r, hr, hlt, hru⟩ := h.reached u (List.mem_of_getElem? hu)
      exact ⟨r, hr, hlt, ReflTransGen.tail hru hux⟩
  case followed =>
    intro w hw v hwv hv
    -- those served by now are those served before, and u
    have hserved : w ∈ s.line.take s.served ∨ w = u := by
      obtain ⟨more, hmore⟩ := hprefix
      rw [← hmore, served_foldl_meet, List.take_append_of_le_length hlt, List.take_add_one, hu] at hw
      simpa using hw
    rcases hserved with hw | rfl
    · exact hprefix.subset (h.followed w hw v hwv hv)
    · exact (hline v).2 (Or.inr ⟨hwv, hv⟩)
  case served_le =>
    rw [served_foldl_meet]
    exact Nat.le_trans hlt hprefix.length_le

/-- when nobody waits, what is in line is closed under steps -/
theorem Sound.closed (h : s.Sound t seeds) (hend : s.step? t = none) {u v : Nat} (hu : u ∈ s.line) (huv : t.Step u v)
    (hv : v < t.length) : v ∈ s.line := by
  have hle : s.line.length ≤ s.served := by simpa [step?] using hend
  exact h.followed u (by rwa [List.take_of_length_le hle]) v huv hv

/-! ## Runs -/

/-- so many steps lead from one search to another -/
inductive Rounds (t : Table) : Nat → Search → Search → Prop where
  | none (s : Search) : Rounds t 0 s s
  | next {n : Nat} {s s' s'' : Search} (first : s.step? t = some s') (rest : Rounds t n s' s'') : Rounds t (n + 1) s s''

theorem Rounds.sound (hrounds : Rounds t n s s') (h : s.Sound t seeds) : s'.Sound t seeds := by
  induction hrounds with
  | none => exact h
  | next first _ ih => exact ih (h.step first)

/-- every step serves one node -/
theorem Rounds.served_eq (hrounds : Rounds t n s s') : s'.served = s.served + n := by
  induction hrounds with
  | none => rfl
  | next first _ ih =>
    obtain ⟨u, -, rfl⟩ := step?_eq_some first
    rw [ih, served_foldl_meet, Nat.add_assoc, Nat.add_comm 1]

theorem exists_rounds_run (t : Table) (s : Search) : ∃ n, Rounds t n s (s.run t) ∧ (s.run t).step? t = .none := by
  fun_induction Search.run t s with
  | case1 s hend => exact ⟨0, .none s, hend⟩
  | case2 s s' hstep ih =>
    obtain ⟨n, hrounds, hend⟩ := ih
    exact ⟨n + 1, .next hstep hrounds, hend⟩

end Search

/-! ## The closure -/

/-- **The closure is what the seeds reach.** A node is marked exactly if a seed that is a node reaches it. -/
theorem has_closure {t : Table} (ht : t.InRange) {seeds : List Nat} {x : Nat} :
    (closure t seeds).has x = true ↔ ∃ r ∈ seeds, r < t.length ∧ t.Reaches r x := by
  obtain ⟨n, hrounds, hend⟩ := Search.exists_rounds_run t (Search.start t seeds)
  have hsound := hrounds.sound (Search.sound_start t seeds)
  rw [closure, hsound.lined.has_iff]
  constructor
  · exact hsound.reached x
  · rintro ⟨r, hr, hlt, hrx⟩
    induction hrx with
    | refl => exact hsound.seeded r hr hlt
    | tail _ hyz ih => exact hsound.closed hend ih hyz (ht _ _ hyz)

/-- **The search is exact.** On a table in range and from seeds in range, repeated or not, the search comes to an end: a
run of steps leads from its start to a search in which nobody waits, one step for each node that got in line. None got
in line twice, so there are no more steps than nodes. The marks that are left are one for each node, and exactly the
seeds and what is reached from a seed in one or more steps are marked. -/
theorem closure_exact {t : Table} {seeds : List Nat} (ht : t.InRange) (hseeds : ∀ r ∈ seeds, r < t.length) :
    ∃ n last, Search.Rounds t n (Search.start t seeds) last ∧ last.step? t = none ∧
      last.line.Nodup ∧ last.line.length = n ∧ n ≤ t.length ∧
      closure t seeds = last.marks ∧ (closure t seeds).length = t.length ∧
      ∀ x, (closure t seeds).has x = true ↔ x ∈ seeds ∨ ∃ r ∈ seeds, TransGen t.Step r x := by
  obtain ⟨n, hrounds, hend⟩ := Search.exists_rounds_run t (Search.start t seeds)
  have hsound := hrounds.sound (Search.sound_start t seeds)
  have hstart : (Search.start t seeds).served = 0 := Search.served_foldl_meet seeds _
  have hcount : ((Search.start t seeds).run t).line.length = n := by
    have hall : ((Search.start t seeds).run t).line.length ≤ ((Search.start t seeds).run t).served := by
      simpa [Search.step?] using hend
    have hserved := hrounds.served_eq
    have hle := hsound.served_le
    omega
  refine ⟨n, _, hrounds, hend, hsound.lined.nodup, hcount, hcount ▸ hsound.lined.length_line_le, rfl,
    hsound.lined.length, fun x => ?_⟩
  rw [has_closure ht]
  constructor
  · rintro ⟨r, hr, -, hrx⟩
    rcases reflTransGen_iff_eq_or_transGen.1 hrx with rfl | hrx
    · exact Or.inl hr
    · exact Or.inr ⟨r, hr, hrx⟩
  · rintro (hx | ⟨r, hr, hrx⟩)
    · exact ⟨x, hx, hseeds x hx, ReflTransGen.refl⟩
    · exact ⟨r, hr, hseeds r hr, hrx.to_reflTransGen⟩

/-- a circle with a double arrow, a self loop behind it, and a node that only leads there -/
def ringed : Table := [[1, 1, 2], [0], [2], [0]]

/-- the seed is met again on the circle, and the node that nobody leads to stays unmarked -/
theorem closure_exact_ringed :
    ringed.InRange ∧ (∀ r ∈ [0, 0], r < ringed.length) ∧
      (∃ n last, Search.Rounds ringed n (Search.start ringed [0, 0]) last ∧ last.step? ringed = none ∧
        last.line.Nodup ∧ n ≤ 4) ∧
      (∃ r ∈ [0, 0], TransGen ringed.Step r 2) ∧ ¬ ∃ r ∈ [0, 0], TransGen ringed.Step r 3 := by
  have hin : ringed.InRange := by decide
  have hseeds : ∀ r ∈ [0, 0], r < ringed.length := by decide
  obtain ⟨n, last, hrounds, hend, hnodup, -, hle, -, -, hmarks⟩ := closure_exact hin hseeds
  refine ⟨hin, hseeds, ⟨n, last, hrounds, hend, hnodup, hle⟩, ?_, fun hreached => ?_⟩
  · exact ((hmarks 2).1 (by decide +kernel)).resolve_left (by decide)
  · exact absurd ((hmarks 3).2 (Or.inr hreached)) (by decide +kernel)

end CallAtlas
