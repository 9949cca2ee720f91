/-
Checks that report the first of several errors.

What steps that succeed have gone through: `exists_of_bind_ok` for one after another, `mapM_eq_ok_iff` for one on each
element of a list.

`FailsFirst errors x` says that a computation fails with the first error of a list, and succeeds if the list is empty. A
list of all that is wrong with an input, in the order in which it is checked, says what the checks do with the input:
`exists_ok_iff` when they pass, `error_iff` which error they give. The other lemmas go through checks made of checks.
`refusals` are the errors of the values that a check does not accept.
-/
import Mathlib.Data.List.Forall2

namespace CallAtlas

/-! ## Steps that succeed -/

/-- a step that succeeds, and the next on its result -/
theorem exists_of_bind_ok {ε α β : Type} {x : Except ε α} {f : α → Except ε β} {b : β} (h : x >>= f = .ok b) :
    ∃ a, x = .ok a ∧ f a = .ok b := by
  cases x with
  | error e => cases h
  | ok a => exact ⟨a, rfl, h⟩

/-- a map that succeeds, element by element -/
theorem mapM_eq_ok_iff {ε α β : Type} {f : α → Except ε β} {xs : List α} {ys : List β} :
    xs.mapM f = .ok ys ↔ List.Forall₂ (fun x y => f x = .ok y) xs ys := by
  induction xs generalizing ys with
  | nil => simp [pure, Except.pure, eq_comm]
  | cons x xs ih =>
    rw [List.mapM_cons, List.forall₂_cons_left_iff]
    constructor
    · intro h
      obtain ⟨y, hy, h⟩ := exists_of_bind_ok h
      obtain ⟨rest, hrest, h⟩ := exists_of_bind_ok h
      exact ⟨y, rest, hy, ih.1 hrest, (Except.ok.inj h).symm⟩
    · rintro ⟨y, rest, hy, hrest, rfl⟩
      rw [hy, ih.2 hrest]
      rfl

theorem forall_of_mapM_ok {ε α β : Type} {f : α → Except ε β} {xs : List α} {ys : List β} {P : β → Prop}
    (h : xs.mapM f = .ok ys) (hP : ∀ x y, f x = .ok y → P y) : ∀ y ∈ ys, P y := by
  have hall := mapM_eq_ok_iff.1 h
  clear h
  induction hall with
  | nil => simp
  | cons hy _ ih => exact List.forall_mem_cons.2 ⟨hP _ _ hy, ih⟩

/-! ## Steps that fail -/

/-- a computation fails with the first of the errors, and succeeds if there are none -/
def FailsFirst {ε α : Type} (errors : List ε) (x : Except ε α) : Prop :=
  match errors with
  | [] => ∃ a, x = .ok a
  | e :: _ => x = .error e

-- not unfolded by unification, which would run the check
/-- the errors of the values that are not accepted, in order -/
@[irreducible]
def refusals {ε α : Type} (accepts : α → Prop) [DecidablePred accepts] (error : α → ε) (values : List α) : List ε :=
  (values.filter fun v => ¬ accepts v).map error

section Refusals

variable {ε α : Type} {accepts : α → Prop} [DecidablePred accepts] {error : α → ε} {values : List α}

theorem refusals_nil : refusals accepts error [] = [] := by
  simp [refusals]

theorem refusals_eq_nil : refusals accepts error values = [] ↔ ∀ v ∈ values, accepts v := by
  simp [refusals, List.filter_eq_nil_iff]

theorem map_refusals {ε' : Type} (φ : ε → ε') :
    (refusals accepts error values).map φ = refusals accepts (φ ∘ error) values := by
  rw [refusals, refusals, List.map_map]

theorem flatMap_refusals : (values.flatMap fun v => refusals accepts error [v]) = refusals accepts error values := by
  induction values with
  | nil => rw [List.flatMap_nil, refusals_nil]
  | cons v values ih =>
    rw [List.flatMap_cons, ih, refusals, refusals, refusals, ← List.map_append, ← List.filter_append,
      List.singleton_append]

end Refusals

namespace FailsFirst

variable {ε α β : Type} {errors more : List ε} {x : Except ε α}

theorem ok (a : α) : FailsFirst (ε := ε) [] (.ok a) :=
  ⟨a, rfl⟩

theorem bind {f : α → Except ε β} (hx : FailsFirst errors x) (hf : ∀ a, x = .ok a → FailsFirst more (f a)) :
    FailsFirst (errors ++ more) (x >>= f) := by
  cases errors with
  | nil =>
    obtain ⟨a, rfl⟩ := hx
    exact hf a rfl
  | cons e errors =>
    have hx : x = .error e := hx
    subst hx
    rfl

/-- a result that is only changed afterwards adds no errors -/
theorem bind_pure (hx : FailsFirst errors x) (f : α → β) : FailsFirst errors (x >>= fun a => pure (f a)) := by
  have h := hx.bind fun a _ => ok (f a)
  rwa [List.append_nil] at h

theorem map (hx : FailsFirst errors x) (f : α → β) : FailsFirst errors (x.map f) := by
  cases errors with
  | nil =>
    obtain ⟨a, rfl⟩ := hx
    exact ⟨f a, rfl⟩
  | cons e errors =>
    have hx : x = .error e := hx
    subst hx
    rfl

/-- the errors of a map are those of its elements, one after another -/
theorem mapM {errors : α → List ε} {f : α → Except ε β} {xs : List α} (h : ∀ x ∈ xs, FailsFirst (errors x) (f x)) :
    FailsFirst (xs.flatMap errors) (xs.mapM f) := by
  induction xs with
  | nil => exact ⟨[], rfl⟩
  | cons x xs ih =>
    obtain ⟨hx, hxs⟩ := List.forall_mem_cons.1 h
    rw [List.mapM_cons, List.flatMap_cons]
    exact hx.bind fun y _ => (ih hxs).bind_pure (y :: ·)

/-- the errors of a fold are those of its elements, whatever was made of the elements before -/
theorem foldlM {errors : α → List ε} {f : β → α → Except ε β} {xs : List α}
    (h : ∀ x ∈ xs, ∀ b, FailsFirst (errors x) (f b x)) (b : β) : FailsFirst (xs.flatMap errors) (xs.foldlM f b) := by
  induction xs generalizing b with
  | nil => exact ok b
  | cons x xs ih =>
    obtain ⟨hx, hxs⟩ := List.forall_mem_cons.1 h
    rw [List.foldlM_cons, List.flatMap_cons]
    exact (hx b).bind fun b' _ => ih hxs b'

theorem mapError {ε' : Type} (hx : FailsFirst errors x) (φ : ε → ε') : FailsFirst (errors.map φ) (x.mapError φ) := by
  cases errors with
  | nil =>
    obtain ⟨a, rfl⟩ := hx
    exact ⟨a, rfl⟩
  | cons e errors =>
    have hx : x = .error e := hx
    subst hx
    rfl

theorem exists_ok_iff (hx : FailsFirst errors x) : (∃ a, x = .ok a) ↔ errors = [] := by
  cases errors with
  | nil => exact iff_of_true hx rfl
  | cons e errors =>
    have hx : x = .error e := hx
    simp [hx]

theorem error_iff (hx : FailsFirst errors x) {e : ε} : x = .error e ↔ errors.head? = some e := by
  cases errors with
  | nil =>
    obtain ⟨a, rfl⟩ := hx
    simp
  | cons first errors =>
    have hx : x = .error first := hx
    simp [hx]

/-- a check of no value -/
theorem check_nil {accepts : α → Prop} [DecidablePred accepts] {error : α → ε} (b : β) :
    FailsFirst (refusals accepts error []) (.ok b) := by
  rw [refusals_nil]
  exact ok b

/-- a check of one value, with an error of its own -/
theorem check_one {accepts : α → Prop} [DecidablePred accepts] {error : α → ε} {v : α} {x : Except ε β}
    (hok : accepts v → ∃ b, x = .ok b) (herror : ¬ accepts v → x = .error (error v)) :
    FailsFirst (refusals accepts error [v]) x := by
  by_cases hv : accepts v
  · have hnone : refusals accepts error [v] = [] := refusals_eq_nil.2 (by simpa using hv)
    rw [hnone]
    exact hok hv
  · have hone : refusals accepts error [v] = [error v] := by simp [refusals, hv]
    rw [hone]
    exact herror hv

end FailsFirst

end CallAtlas
