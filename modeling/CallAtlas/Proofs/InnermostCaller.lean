/-
From which definition a call comes.

Definitions around a reference are compared by extent, which is a number of lines and a number of columns and not a
place. It tells which of two bodies is inside the other as long as coordinates are not negative.
- `extent_lt_of_within`: a body inside another one has the lesser extent, also when columns are counted downwards.
- `exists_charged_of_selects`: what is selected among the bodies of a document is an occurrence at a place, and those
  before it have greater extents.
- `charges_innermost`: so a call comes from a definition of its document around the reference; no definition around the
  reference is inside that one, and among those of the same extent it is the first.
-/
import CallAtlas.Proofs.IndexReading

namespace CallAtlas

/-! ## Bodies inside one another -/

/-- a coordinate: a 32-bit integer that is not negative -/
def IsCoordinate (n : Int) : Prop :=
  0 ≤ n ∧ n ≤ 2147483647

instance (n : Int) : Decidable (IsCoordinate n) := by
  unfold IsCoordinate; infer_instance

theorem clamp32_eq_self {n : Int} (h : -2147483648 ≤ n) (h' : n ≤ 2147483647) : clamp32 n = n := by
  unfold clamp32
  omega

theorem Position.lt_irrefl (a : Position) : a.lt a = false := by
  simp [Position.lt]

namespace Span

variable {s inner outer : Span}

/-- all coordinates of a span -/
def coordinates (s : Span) : List Int :=
  [s.start.1, s.start.2, s.stop.1, s.stop.2]

/-- a span is inside another one and not all of it -/
def Within (inner outer : Span) : Prop :=
  outer.contains inner = true ∧ inner ≠ outer

theorem mem_of_mem_coordinates {range : List Int} (h : ofRange? range = some s) : ∀ n ∈ s.coordinates, n ∈ range := by
  unfold ofRange? at h
  split at h
  all_goals
    cases h
    try simp [coordinates]

/-- differences of coordinates are differences of 32-bit integers that fit -/
theorem extent_eq (h : ∀ n ∈ s.coordinates, IsCoordinate n) :
    s.extent = (s.stop.1 - s.start.1, s.stop.2 - s.start.2) := by
  simp only [coordinates, IsCoordinate, List.forall_mem_cons] at h
  obtain ⟨hline, hcolumn, hline', hcolumn', -⟩ := h
  rw [extent, clamp32_eq_self (by omega) (by omega), clamp32_eq_self (by omega) (by omega)]

/-- **A span inside another one has the lesser extent.** -/
theorem extent_lt_of_within (h : inner.Within outer) (hinner : ∀ n ∈ inner.coordinates, IsCoordinate n)
    (houter : ∀ n ∈ outer.coordinates, IsCoordinate n) : Position.lt inner.extent outer.extent = true := by
  obtain ⟨hcontains, hne⟩ := h
  obtain ⟨⟨line, column⟩, ⟨line', column'⟩⟩ := inner
  obtain ⟨⟨outerLine, outerColumn⟩, ⟨outerLine', outerColumn'⟩⟩ := outer
  rw [extent_eq hinner, extent_eq houter]
  simp only [contains, Position.le, Bool.and_eq_true, Bool.or_eq_true, decide_eq_true_eq, beq_iff_eq] at hcontains
  simp only [ne_eq, mk.injEq, Prod.mk.injEq, not_and] at hne
  simp only [Position.lt, Bool.or_eq_true, Bool.and_eq_true, decide_eq_true_eq, beq_iff_eq]
  -- with as many lines both begin and end on the same lines, and the columns decide
  omega

end Span

/-! ## Occurrences that are selected -/

namespace Document

variable {doc : Document} {span body : Span} {i : Nat} {o : Occurrence}

/-- an occurrence of a document defines a function with a body -/
def DefinesAt (doc : Document) (i : Nat) (o : Occurrence) (body : Span) : Prop :=
  doc.occurrences[i]? = some o ∧ o.definesFunction = true ∧ o.body? = some body

/-- a definition around a span: none around the span is inside it, and those of the same extent come later -/
structure Charges (doc : Document) (span : Span) (i : Nat) (o : Occurrence) (body : Span) : Prop where
  definesAt : doc.DefinesAt i o body
  contains : body.contains span = true
  not_within : ∀ j e inner, doc.DefinesAt j e inner → inner.contains span = true → ¬ inner.Within body
  first : ∀ j e other, doc.DefinesAt j e other → other.contains span = true → other.extent = body.extent → i ≤ j

/-- the body of an occurrence that defines a function around a span -/
def bodyAround? (span : Span) (o : Occurrence) : Option (String × Span) :=
  (if o.definesFunction then o.body?.map (o.symbol, ·) else none).filter fun b => b.2.contains span

theorem filter_bodies_eq (doc : Document) (span : Span) :
    doc.bodies.filter (fun b => b.2.contains span) = doc.occurrences.filterMap (bodyAround? span) := by
  unfold bodies bodiesIn
  rw [List.filterMap_filter, List.filter_filterMap]
  rfl

theorem bodyAround?_eq_some_iff {b : String × Span} :
    bodyAround? span o = some b ↔
      o.definesFunction = true ∧ o.body? = some b.2 ∧ b.2.contains span = true ∧ b.1 = o.symbol := by
  obtain ⟨symbol, body⟩ := b
  cases hdef : o.definesFunction with
  | false => simp [bodyAround?, hdef]
  | true =>
    simp only [bodyAround?, hdef, if_true, Option.filter_eq_some_iff, Option.map_eq_some_iff, Prod.mk.injEq]
    grind

/-- **What is selected is at a place.** Definitions around the span that come earlier have greater extents, and none has
a lesser one. -/
theorem exists_charged_of_selects {b : String × Span} (h : doc.Selects span b) :
    ∃ i o, doc.DefinesAt i o b.2 ∧ b.1 = o.symbol ∧ b.2.contains span = true ∧
      ∀ j e other, doc.DefinesAt j e other → other.contains span = true →
        Position.lt other.extent b.2.extent = false ∧ (j < i → Position.lt b.2.extent other.extent = true) := by
  obtain ⟨before, after, hsplit, hbefore, hafter⟩ := h
  rw [filter_bodies_eq] at hsplit
  obtain ⟨os, os', hos, rfl, hrest⟩ := List.filterMap_eq_append_iff.1 hsplit
  obtain ⟨skipped, o, later, rfl, hskipped, ho, rfl⟩ := List.filterMap_eq_cons_iff.1 hrest
  rw [← List.append_assoc] at hos
  obtain ⟨hdef, hbody, hcontains, hsymbol⟩ := bodyAround?_eq_some_iff.1 ho
  have hplace : doc.occurrences[(os ++ skipped).length]? = some o := by
    rw [hos, List.getElem?_append_right (Nat.le_refl _), Nat.sub_self, List.getElem?_cons_zero]
  refine ⟨_, o, ⟨hplace, hdef, hbody⟩, hsymbol, hcontains, fun j e other he hother => ?_⟩
  obtain ⟨hj, hedef, hebody⟩ := he
  have haround : bodyAround? span e = some (e.symbol, other) :=
    bodyAround?_eq_some_iff.2 ⟨hedef, hebody, hother, rfl⟩
  rcases Nat.lt_trichotomy j (os ++ skipped).length with hlt | rfl | hlt
  case inl =>
    rw [hos, List.getElem?_append_left hlt] at hj
    have hmem : (e.symbol, other) ∈ os.filterMap (bodyAround? span) := by
      rcases List.mem_append.1 (List.mem_of_getElem? hj) with hmem | hmem
      · exact List.mem_filterMap.2 ⟨e, hmem, haround⟩
      · exact absurd haround (by simp [hskipped e hmem])
    have hgreater := hbefore _ hmem
    refine ⟨?_, fun _ => hgreater⟩
    rw [Bool.eq_false_iff]
    intro hless
    exact absurd (Position.lt_trans hgreater hless) (by simp [Position.lt_irrefl])
  case inr.inl =>
    obtain rfl : o = e := Option.some.inj (hplace.symm.trans hj)
    obtain rfl : b.2 = other := Option.some.inj (hbody.symm.trans hebody)
    exact ⟨Position.lt_irrefl _, fun hlt => absurd hlt (Nat.lt_irrefl _)⟩
  case inr.inr =>
    obtain ⟨k, hk⟩ : ∃ k, j - (os ++ skipped).length = k + 1 := ⟨j - (os ++ skipped).length - 1, by omega⟩
    rw [hos, List.getElem?_append_right (Nat.le_of_lt hlt), hk, List.getElem?_cons_succ] at hj
    have hmem : (e.symbol, other) ∈ later.filterMap (bodyAround? span) :=
      List.mem_filterMap.2 ⟨e, List.mem_of_getElem? hj, haround⟩
    have hless := hafter _ hmem
    exact ⟨hless, fun hlt' => absurd hlt (Nat.lt_asymm hlt')⟩

end Document

/-! ## Calls of an index -/

namespace Index

/-- all ranges of an index are made of coordinates -/
def HasCoordinates (index : Index) : Prop :=
  ∀ doc ∈ index.documents, ∀ o ∈ doc.occurrences, ∀ n ∈ o.range ++ o.enclosingRange, IsCoordinate n

instance (index : Index) : Decidable index.HasCoordinates := by
  unfold HasCoordinates; infer_instance

variable {index : Index} {doc : Document} {o : Occurrence} {body : Span} {i : Nat}

theorem HasCoordinates.of_definesAt (h : index.HasCoordinates) (hdoc : doc ∈ index.documents)
    (hdefines : doc.DefinesAt i o body) : ∀ n ∈ body.coordinates, IsCoordinate n := by
  obtain ⟨ho, -, hbody⟩ := hdefines
  have hranges := h doc hdoc o (List.mem_of_getElem? ho)
  intro n hn
  cases henclosing : Span.ofRange? o.enclosingRange with
  | some s =>
    obtain rfl : s = body := by simpa [Occurrence.body?, henclosing] using hbody
    exact hranges n (List.mem_append_right _ (Span.mem_of_mem_coordinates henclosing n hn))
  | none =>
    have hrange : Span.ofRange? o.range = some body := by simpa [Occurrence.body?, henclosing] using hbody
    exact hranges n (List.mem_append_left _ (Span.mem_of_mem_coordinates hrange n hn))

/-- **The innermost definition is charged.** The calls of a program are the call sites of its index, in their order.
Each leads to the function of its symbol, and it comes from a definition of the same document around the reference. No
definition of that document around the reference is inside the body of that one, and among those of the same extent it
is the first. -/
theorem charges_innermost (index : Index) (h : index.HasCoordinates) :
    List.Forall₂
      (fun site c => ∃ span i o body, Span.ofRange? site.2.range = some span ∧ site.1.Charges span i o body ∧
        index.functionSymbols[c.caller]? = some o.symbol ∧ index.functionSymbols[c.callee]? = some site.2.symbol)
      index.callSites index.program.calls := by
  have hcalls := (List.forall₂_and_left _ _).2 ⟨fun site hsite => index.mem_callSites.1 hsite, index.isCallAt_calls⟩
  refine hcalls.imp fun site c hsite => ?_
  obtain ⟨⟨hdoc, -⟩, span, b, hspan, hselects, hcaller, hcallee, -⟩ := hsite
  obtain ⟨i, o, hdefines, hsymbol, hcontains, hleast⟩ := Document.exists_charged_of_selects hselects
  refine ⟨span, i, o, b.2, hspan, ⟨hdefines, hcontains, ?_, ?_⟩, hsymbol ▸ hcaller, hcallee⟩
  case refine_1 =>
    intro j e inner he hinner hwithin
    have hless := Span.extent_lt_of_within hwithin (h.of_definesAt hdoc he) (h.of_definesAt hdoc hdefines)
    exact absurd hless (by simp [(hleast j e inner he hinner).1])
  case refine_2 =>
    intro j e other he hother hextent
    by_contra hlt
    have hgreater := (hleast j e other he hother).2 (Nat.lt_of_not_le hlt)
    exact absurd hgreater (by simp [hextent, Position.lt_irrefl])

/-- two functions inside another one, both with the body that is around the reference -/
def nestedBodies : Index where
  documents := [{
    path := "src/main.rs"
    occurrences := [
      { symbol := "rust-analyzer cargo app 0.1.0 main().", range := [0, 3, 7], enclosingRange := [0, 0, 9, 1],
        roles := 1 },
      { symbol := "rust-analyzer cargo app 0.1.0 main().first().", range := [2, 7, 12],
        enclosingRange := [2, 4, 5, 5], roles := 1 },
      { symbol := "rust-analyzer cargo app 0.1.0 main().second().", range := [2, 7, 12],
        enclosingRange := [2, 4, 5, 5], roles := 1 },
      { symbol := "rust-analyzer cargo app 0.1.0 run().", range := [3, 8, 11] }] }]

theorem charges_innermost_nested :
    nestedBodies.HasCoordinates ∧ nestedBodies.program.calls.map (fun c => (c.caller, c.callee)) = [(1, 3)] ∧
      List.Forall₂
        (fun site c => ∃ span i o body, Span.ofRange? site.2.range = some span ∧ site.1.Charges span i o body ∧
          nestedBodies.functionSymbols[c.caller]? = some o.symbol ∧
          nestedBodies.functionSymbols[c.callee]? = some site.2.symbol)
        nestedBodies.callSites nestedBodies.program.calls :=
  ⟨by decide, by decide +kernel, charges_innermost nestedBodies (by decide)⟩

end Index

end CallAtlas
