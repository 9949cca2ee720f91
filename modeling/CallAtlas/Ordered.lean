/-
Lists in ascending order without repeats.

An order is given by its strict part, `before`. `insert` puts an element in its place unless an equal one is there,
and `ofList` sorts a list that way. `mem_ofList` says that nothing is lost or added, `sorted_ofList` that the result
ascends, for every order in which two elements are equal or one is before the other.

`position?` looks for a key in a list whose keys ascend by halving the part in which it may be; `position?_eq_some_iff`
says that this finds its place if there is one.
-/

namespace CallAtlas.Ordered

/-- a strict order in which any two elements can be compared -/
structure IsOrder {α : Type} (before : α → α → Bool) : Prop where
  irrefl : ∀ a, before a a = false
  trans : ∀ a b c, before a b = true → before b c = true → before a c = true
  tri : ∀ a b, before a b = false → before b a = false → a = b

theorem IsOrder.ne {α : Type} {before : α → α → Bool} (h : IsOrder before) {a b : α} (hab : before a b = true) :
    a ≠ b := by
  rintro rfl
  rw [h.irrefl a] at hab
  cases hab

theorem IsOrder.asymm {α : Type} {before : α → α → Bool} (h : IsOrder before) {a b : α} (hab : before a b = true) :
    before b a = false := by
  cases hba : before b a with
  | false => rfl
  | true =>
    have hbb := h.trans b a b hba hab
    rw [h.irrefl b] at hbb
    cases hbb

/-- an element put in its place -/
def insert {α : Type} (before : α → α → Bool) (a : α) : List α → List α
  | [] => [a]
  | b :: r => if before a b then a :: b :: r else if before b a then b :: insert before a r else b :: r

/-- the elements of a list in ascending order, each once -/
def ofList {α : Type} (before : α → α → Bool) (xs : List α) : List α :=
  xs.foldr (insert before) []

/-! ## Elements -/

theorem mem_insert {α : Type} {before : α → α → Bool} (h : IsOrder before) {a x : α} {xs : List α} :
    x ∈ insert before a xs ↔ x = a ∨ x ∈ xs := by
  induction xs with
  | nil => simp [insert]
  | cons b r ih =>
    unfold insert
    by_cases hab : before a b = true
    · simp [hab]
    · by_cases hba : before b a = true
      · simp only [hab, hba, if_true, Bool.false_eq_true, if_false, List.mem_cons, ih]
        exact ⟨fun | .inl h => .inr (.inl h) | .inr (.inl h) => .inl h | .inr (.inr h) => .inr (.inr h),
          fun | .inl h => .inr (.inl h) | .inr (.inl h) => .inl h | .inr (.inr h) => .inr (.inr h)⟩
      · have hb : a = b := h.tri a b (by simpa using hab) (by simpa using hba)
        subst hb
        simp [hab]

theorem mem_ofList {α : Type} {before : α → α → Bool} (h : IsOrder before) {x : α} {xs : List α} :
    x ∈ ofList before xs ↔ x ∈ xs := by
  induction xs with
  | nil => simp [ofList]
  | cons a r ih => simp only [ofList, List.foldr_cons, List.mem_cons, mem_insert h] at ih ⊢; rw [ih]

/-! ## Order -/

/-- each element is before all that follow it -/
def Sorted {α : Type} (before : α → α → Bool) (xs : List α) : Prop :=
  xs.Pairwise fun a b => before a b = true

theorem sorted_insert {α : Type} {before : α → α → Bool} (h : IsOrder before) {a : α} {xs : List α}
    (hs : Sorted before xs) : Sorted before (insert before a xs) := by
  induction xs with
  | nil => simp [insert, Sorted]
  | cons b r ih =>
    have hb := List.pairwise_cons.1 hs
    unfold insert
    by_cases hab : before a b = true
    · simp only [hab, if_true]
      refine List.pairwise_cons.2 ⟨fun c hc => ?_, hs⟩
      rcases List.mem_cons.1 hc with rfl | hc
      · exact hab
      · exact h.trans a b c hab (hb.1 c hc)
    · by_cases hba : before b a = true
      · simp only [hab, hba, Bool.false_eq_true, if_false, if_true]
        refine List.pairwise_cons.2 ⟨fun c hc => ?_, ih hb.2⟩
        rcases (mem_insert h).1 hc with rfl | hc
        · exact hba
        · exact hb.1 c hc
      · simpa only [hab, hba, Bool.false_eq_true, if_false] using hs

theorem sorted_ofList {α : Type} {before : α → α → Bool} (h : IsOrder before) (xs : List α) :
    Sorted before (ofList before xs) := by
  induction xs with
  | nil => exact List.Pairwise.nil
  | cons a r ih => exact sorted_insert h ih

/-- an ascending list has no repeats -/
theorem Sorted.nodup {α : Type} {before : α → α → Bool} (h : IsOrder before) {xs : List α} (hs : Sorted before xs) :
    xs.Nodup :=
  hs.imp h.ne

/-! ## Looking up -/

/-- the only place left when the `size` places from `base` on are halved down to one; the upper half goes if what stands
at its first place is above what is looked for -/
def halve (above : Nat → Bool) (base size : Nat) : Nat :=
  if size ≤ 1 then base
  else halve above (if above (base + size / 2) then base else base + size / 2) (size - size / 2)
termination_by size
decreasing_by omega

/-- the place of a key in a list whose keys ascend -/
def position? {α κ : Type} [DecidableEq κ] (before : κ → κ → Bool) (key : α → κ) (xs : List α) (k : κ) : Option Nat :=
  let place := halve (fun i => xs[i]?.any fun x => before k (key x)) 0 xs.length
  if xs[place]?.any fun x => key x = k then some place else none

/-- halving ends at the last place that is not above, if the part that is halved has it -/
theorem halve_eq {above : Nat → Bool} {i base size : Nat} (hbelow : ∀ j ≤ i, above j = false)
    (habove : ∀ j, i < j → j < base + size → above j = true) (hfrom : base ≤ i) (hto : i < base + size) :
    halve above base size = i := by
  fun_induction halve above base size with
  | case1 base size hsize => omega
  | case2 base size hsize ih =>
    apply ih
    · intro j hij hj
      split at hj <;> exact habove j hij (by omega)
    · split
      next => exact hfrom
      next hmid =>
        -- were i below the middle, what stands there would be above
        apply Nat.le_of_not_lt
        intro hlt
        exact hmid (habove _ hlt (by omega))
    · split
      next hmid =>
        apply Nat.lt_of_not_le
        intro hle
        rw [hbelow _ (by omega)] at hmid
        cases hmid
      next => omega

/-- **A search by halving is exact.** In a list whose keys ascend it finds the place that has the key. -/
theorem position?_eq_some_iff {α κ : Type} [DecidableEq κ] {before : κ → κ → Bool} {key : α → κ} {xs : List α} {k : κ}
    {i : Nat} (h : IsOrder before) (hs : Sorted before (xs.map key)) :
    position? before key xs k = some i ↔ ∃ x, xs[i]? = some x ∧ key x = k := by
  constructor
  · intro hi
    simp only [position?] at hi
    split at hi
    next hfound =>
      cases hi
      simpa [Option.any_eq_true] using hfound
    next => cases hi
  · rintro ⟨x, hx, rfl⟩
    obtain ⟨hlt, rfl⟩ := List.getElem?_eq_some_iff.1 hx
    -- keys of lower places are before the key, keys of higher places after it
    have hascend : ∀ {a b} (hab : a < b) (hb : b < xs.length), before (key xs[a]) (key xs[b]) = true := by
      intro a b hab hb
      have hpair := List.pairwise_iff_getElem.1 hs a b (by simpa using Nat.lt_trans hab hb) (by simpa using hb) hab
      simpa using hpair
    have hplace : halve (fun j => xs[j]?.any fun x => before (key xs[i]) (key x)) 0 xs.length = i := by
      refine halve_eq (fun j hj => ?_) (fun j hij hj => ?_) (Nat.zero_le i) (by omega)
      · have hjlt : j < xs.length := Nat.lt_of_le_of_lt hj hlt
        rw [List.getElem?_eq_getElem hjlt, Option.any_some]
        rcases Nat.lt_or_eq_of_le hj with hji | rfl
        · exact h.asymm (hascend hji hlt)
        · exact h.irrefl _
      · have hjlt : j < xs.length := by omega
        rw [List.getElem?_eq_getElem hjlt, Option.any_some]
        exact hascend hij hjlt
    simp [position?, hplace, hlt]

/-! ## Orders -/

/-- naturals by size -/
def natBefore (a b : Nat) : Bool := a < b

theorem isOrder_nat : IsOrder natBefore where
  irrefl a := by simp [natBefore]
  trans a b c := by simp only [natBefore, decide_eq_true_eq]; omega
  tri a b := by simp only [natBefore, decide_eq_false_iff_not]; omega

/-- texts by code points -/
def textBefore (a b : String) : Bool := a < b

theorem isOrder_text : IsOrder textBefore where
  irrefl a := decide_eq_false (String.lt_irrefl a)
  trans a b c := by simp only [textBefore, decide_eq_true_eq]; exact String.lt_trans
  tri a b := by
    simp only [textBefore, decide_eq_false_iff_not, String.not_lt]
    exact fun h1 h2 => String.le_antisymm h2 h1

/-- pairs by their first part, then by their second -/
def pairBefore {α β : Type} (before : α → α → Bool) (before' : β → β → Bool) (a b : α × β) : Bool :=
  before a.1 b.1 || (!before b.1 a.1 && before' a.2 b.2)

theorem pairBefore_iff {α β : Type} {before : α → α → Bool} {before' : β → β → Bool} (h : IsOrder before)
    {a b : α × β} :
    pairBefore before before' a b = true ↔ before a.1 b.1 = true ∨ a.1 = b.1 ∧ before' a.2 b.2 = true := by
  rw [pairBefore, Bool.or_eq_true, Bool.and_eq_true, Bool.not_eq_true']
  constructor
  · rintro (hab | ⟨hba, hab⟩)
    · exact Or.inl hab
    · by_cases hlt : before a.1 b.1 = true
      · exact Or.inl hlt
      · exact Or.inr ⟨h.tri _ _ (by simpa using hlt) hba, hab⟩
  · rintro (hab | ⟨heq, hab⟩)
    · exact Or.inl hab
    · exact Or.inr ⟨heq ▸ h.irrefl _, hab⟩

theorem isOrder_pair {α β : Type} {before : α → α → Bool} {before' : β → β → Bool} (h : IsOrder before)
    (h' : IsOrder before') : IsOrder (pairBefore before before') where
  irrefl a := by simp [pairBefore, h.irrefl, h'.irrefl]
  trans a b c := by
    simp only [pairBefore, Bool.or_eq_true, Bool.and_eq_true, Bool.not_eq_true']
    rintro (hab | ⟨hba, hab⟩) (hbc | ⟨hcb, hbc⟩)
    · exact .inl (h.trans _ _ _ hab hbc)
    · by_cases e : before b.1 c.1 = true
      · exact .inl (h.trans _ _ _ hab e)
      · exact .inl (h.tri _ _ (by simpa using e) hcb ▸ hab)
    · by_cases e : before a.1 b.1 = true
      · exact .inl (h.trans _ _ _ e hbc)
      · exact .inl (h.tri _ _ (by simpa using e) hba ▸ hbc)
    · by_cases e : before a.1 c.1 = true
      · exact .inl e
      · refine .inr ⟨?_, h'.trans _ _ _ hab hbc⟩
        by_cases e' : before c.1 a.1 = true
        · by_cases f : before b.1 a.1 = true
          · rw [f] at hba; cases hba
          · by_cases g : before a.1 b.1 = true
            · have := h.trans _ _ _ e' g
              rw [this] at hcb; cases hcb
            · have eq := h.tri a.1 b.1 (by simpa using g) hba
              rw [eq, hcb] at e'; cases e'
        · simpa using e'
  tri a b := by
    simp only [pairBefore, Bool.or_eq_false_iff, Bool.and_eq_false_iff, Bool.not_eq_false']
    rintro ⟨hab, hab'⟩ ⟨hba, hba'⟩
    exact Prod.ext (h.tri _ _ hab hba) (h'.tri _ _ (by simpa [hba] using hab') (by simpa [hab] using hba'))

end CallAtlas.Ordered
