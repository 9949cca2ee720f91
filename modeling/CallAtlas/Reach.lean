/-
What can be reached in a directed graph.

A graph is a table: the successors of node i stand at position i. `closure` searches it breadth first. A node that is met
for the first time is marked and gets in line; the seeds are met at the beginning, and then the nodes in line are served
one after another, which meets their successors, until nobody waits. The marks that are left say of each node whether it
is a seed or can be reached from one by following successors. Nodes outside the table are passed over.
-/

namespace CallAtlas

/-- successors of each node -/
abbrev Table := List (List Nat)

/-- the successors of a node; a node outside the table has none -/
def Table.next (t : Table) (u : Nat) : List Nat :=
  t[u]?.getD []

/-- for each node whether it is marked -/
abbrev Marks := List Bool

/-- a node is marked -/
def Marks.has (marks : Marks) (u : Nat) : Bool :=
  marks[u]?.getD false

/-- how far a search has come -/
structure Search where
  marks : Marks
  /-- the nodes that got in line, first come first; who was served stays on the list -/
  line : List Nat
  /-- how many in line were served -/
  served : Nat
  deriving DecidableEq, Repr

namespace Search

/-- a node is met; the first time it is marked and gets in line -/
def meet (s : Search) (v : Nat) : Search :=
  if s.marks[v]? = some false then { s with marks := s.marks.set v true, line := s.line ++ [v] } else s

/-- a search that has met its seeds -/
def start (t : Table) (seeds : List Nat) : Search :=
  seeds.foldl meet ⟨List.replicate t.length false, [], 0⟩

/-- the next in line is served and its successors are met; `none` if nobody waits -/
def step? (t : Table) (s : Search) : Option Search :=
  s.line[s.served]?.map fun u => (t.next u).foldl meet { s with served := s.served + 1 }

/-! ## Steps come to an end -/

/-- nodes that have no mark, and nodes that wait -/
def pending (s : Search) : Nat :=
  s.marks.count false + (s.line.length - s.served)

/-- a node that gets in line has had no mark before -/
theorem count_meet (s : Search) (v : Nat) :
    (s.meet v).marks.count false + (s.meet v).line.length = s.marks.count false + s.line.length := by
  unfold meet
  split
  next hv =>
    obtain ⟨hlt, hfalse⟩ := List.getElem?_eq_some_iff.1 hv
    have hpos : 0 < s.marks.count false := List.count_pos_iff.2 (hfalse ▸ List.getElem_mem hlt)
    simp only [List.count_set hlt, hfalse, List.length_append, List.length_singleton, beq_self_eq_true, if_true,
      Bool.true_beq, Bool.false_eq_true, if_false]
    omega
  next => rfl

theorem served_meet (s : Search) (v : Nat) : (s.meet v).served = s.served := by
  unfold meet
  split <;> rfl

theorem prefix_line_meet (s : Search) (v : Nat) : s.line <+: (s.meet v).line := by
  unfold meet
  split
  · exact List.prefix_append _ _
  · exact List.prefix_rfl

theorem count_foldl_meet (vs : List Nat) (s : Search) :
    (vs.foldl meet s).marks.count false + (vs.foldl meet s).line.length = s.marks.count false + s.line.length := by
  induction vs generalizing s with
  | nil => rfl
  | cons v vs ih => rw [List.foldl_cons, ih, count_meet]

theorem served_foldl_meet (vs : List Nat) (s : Search) : (vs.foldl meet s).served = s.served := by
  induction vs generalizing s with
  | nil => rfl
  | cons v vs ih => rw [List.foldl_cons, ih, served_meet]

/-- nobody gets out of line -/
theorem prefix_line_foldl_meet (vs : List Nat) (s : Search) : s.line <+: (vs.foldl meet s).line := by
  induction vs generalizing s with
  | nil => exact List.prefix_rfl
  | cons v vs ih => exact (prefix_line_meet s v).trans (ih (s.meet v))

theorem step?_eq_some {t : Table} {s s' : Search} (h : s.step? t = some s') :
    ∃ u, s.line[s.served]? = some u ∧ s' = (t.next u).foldl meet { s with served := s.served + 1 } := by
  obtain ⟨u, hu, hs'⟩ := Option.map_eq_some_iff.1 h
  exact ⟨u, hu, hs'.symm⟩

theorem pending_step? {t : Table} {s s' : Search} (h : s.step? t = some s') : s'.pending < s.pending := by
  obtain ⟨u, hu, rfl⟩ := step?_eq_some h
  have hwaits : s.served < s.line.length := (List.getElem?_eq_some_iff.1 hu).1
  have hcount := count_foldl_meet (t.next u) { s with served := s.served + 1 }
  have hline := (prefix_line_foldl_meet (t.next u) { s with served := s.served + 1 }).length_le
  simp only at hcount hline
  simp only [pending, served_foldl_meet]
  omega

/-- the search when nobody waits any more -/
def run (t : Table) (s : Search) : Search :=
  match _h : s.step? t with
  | none => s
  | some s' => run t s'
termination_by s.pending
decreasing_by exact pending_step? _h

end Search

/-- marks for the nodes that are seeds or can be reached from one -/
def closure (t : Table) (seeds : List Nat) : Marks :=
  ((Search.start t seeds).run t).marks

end CallAtlas
