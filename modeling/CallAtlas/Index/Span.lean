/-
Ranges of a source text.

A span runs from a line and column to another, and lines and columns are 32-bit integers. A range is written with four
numbers, or with three when it starts and ends on one line; other lengths are no range. Spans are compared by position,
line before column; the extent of a span is how many lines and columns it covers.
-/

namespace CallAtlas

/-- a line and a column -/
abbrev Position := Int × Int

/-- a range of a source text -/
structure Span where
  start : Position
  stop : Position
  deriving DecidableEq, Repr

/-- an integer brought into the range of 32 bits -/
def clamp32 (n : Int) : Int := max (-2147483648) (min n 2147483647)

/-- a position is not after another -/
def Position.le (a b : Position) : Bool :=
  a.1 < b.1 || (a.1 == b.1 && a.2 ≤ b.2)

/-- a position is before another -/
def Position.lt (a b : Position) : Bool :=
  a.1 < b.1 || (a.1 == b.1 && a.2 < b.2)

theorem Position.lt_trans {a b c : Position} (hab : a.lt b = true) (hbc : b.lt c = true) : a.lt c = true := by
  simp only [Position.lt, Bool.or_eq_true, Bool.and_eq_true, decide_eq_true_eq, beq_iff_eq] at *
  omega

/-- a position before another one is before all that is not -/
theorem Position.lt_of_lt_of_not_lt {a b c : Position} (hab : a.lt b = true) (hcb : c.lt b = false) :
    a.lt c = true := by
  simp only [Position.lt, Bool.or_eq_true, Bool.or_eq_false_iff, Bool.and_eq_true, Bool.and_eq_false_iff,
    decide_eq_true_eq, decide_eq_false_iff_not, beq_iff_eq, beq_eq_false_iff_ne] at *
  omega

namespace Span

/-- the span that a written range stands for -/
def ofRange? : List Int → Option Span
  | [line, start, stop] => some ⟨(line, start), (line, stop)⟩
  | [startLine, start, stopLine, stop] => some ⟨(startLine, start), (stopLine, stop)⟩
  | _ => none

/-- a span covers another -/
def contains (outer inner : Span) : Bool :=
  Position.le outer.start inner.start && Position.le inner.stop outer.stop

/-- the lines and columns that a span covers -/
def extent (s : Span) : Position :=
  (clamp32 (s.stop.1 - s.start.1), clamp32 (s.stop.2 - s.start.2))

end Span

/-- the first of the elements whose extent is least -/
def innermost {α : Type} (span : α → Span) : List α → Option α
  | [] => none
  | a :: r =>
    match innermost span r with
    | none => some a
    | some b => if Position.lt (span b).extent (span a).extent then some b else some a

/-- the innermost element is one of the elements -/
theorem mem_of_innermost {α : Type} {span : α → Span} {xs : List α} {a : α} (h : innermost span xs = some a) :
    a ∈ xs := by
  induction xs generalizing a with
  | nil => simp [innermost] at h
  | cons b r ih =>
    unfold innermost at h
    split at h
    · simp_all
    · rename_i c hc
      split at h
      · exact List.mem_cons_of_mem _ (ih (h ▸ hc))
      · simp_all

theorem innermost_eq_none {α : Type} {span : α → Span} {xs : List α} : innermost span xs = none ↔ xs = [] := by
  cases xs with
  | nil => simp [innermost]
  | cons a r =>
    unfold innermost
    cases innermost span r with
    | none => simp
    | some b => cases h : Position.lt (span b).extent (span a).extent <;> simp [h]

/-- no element has a lesser extent than the innermost one, and those before it have a greater one -/
theorem exists_split_of_innermost {α : Type} {span : α → Span} {xs : List α} {a : α} (h : innermost span xs = some a) :
    ∃ before after, xs = before ++ a :: after ∧
      (∀ b ∈ before, Position.lt (span a).extent (span b).extent = true) ∧
        ∀ b ∈ after, Position.lt (span b).extent (span a).extent = false := by
  induction xs generalizing a with
  | nil => simp [innermost] at h
  | cons x r ih =>
    unfold innermost at h
    split at h
    next hnone =>
      obtain rfl : x = a := Option.some.inj h
      exact ⟨[], r, rfl, by simp, by simp [innermost_eq_none.1 hnone]⟩
    next c hc =>
      obtain ⟨before, after, hr, hbefore, hafter⟩ := ih hc
      split at h
      next hlt =>
        obtain rfl : c = a := Option.some.inj h
        exact ⟨x :: before, after, by rw [hr, List.cons_append], List.forall_mem_cons.2 ⟨hlt, hbefore⟩, hafter⟩
      next hlt =>
        obtain rfl : x = a := Option.some.inj h
        have hlt : Position.lt (span c).extent (span x).extent = false := by simpa using hlt
        refine ⟨[], r, rfl, by simp, fun b hb => ?_⟩
        -- an element of the rest that is less than x would be less than c, or c would be less than x
        rw [Bool.eq_false_iff]
        intro hbx
        rw [hr, List.mem_append, List.mem_cons] at hb
        rcases hb with hb | rfl | hb
        · exact absurd (Position.lt_trans (hbefore b hb) hbx) (by simp [hlt])
        · exact absurd hbx (by simp [hlt])
        · exact absurd (Position.lt_of_lt_of_not_lt hbx hlt) (by simp [hafter b hb])

end CallAtlas
