/-
Texts with another text in place of a character.

`String.replace` searches a text from its start and writes the text anew, search step by search step. For a pattern of one
character, `toList_replace` says what comes out: each place where the character stands has the other text, and all other
characters stand as they were.
-/
import Mathlib.Data.List.Basic

namespace CallAtlas.Text

open String.Slice.Pattern String.Slice.Pattern.Model

/-- what a character becomes when `t` is put in place of `c` -/
def replacement (c : Char) (t : String) (d : Char) : List Char :=
  if d = c then t.toList else [d]

section Search

variable {c : Char} {t : String} {s : String.Slice} {start stop : s.Pos}

/-- what follows a position, cut at a later one -/
theorem copy_sliceFrom_eq_append (h : start ≤ stop) :
    (s.sliceFrom start).copy = (s.slice start stop h).copy ++ (s.sliceFrom stop).copy := by
  have hcut : start.Splits (s.sliceTo start).copy ((s.slice start stop h).copy ++ (s.sliceFrom stop).copy) := by
    refine ⟨?_, start.splits.offset_eq_rawEndPos⟩
    rw [← String.append_assoc, ← String.Slice.copy_eq_copy_slice]
  exact hcut.copy_sliceFrom_eq

/-- what a search passes over does not hold the character -/
theorem ne_of_mem_slice (h : start ≤ stop) (hpassed : ∀ pos, start ≤ pos → pos < stop → ¬MatchesAt c pos) {d : Char}
    (hd : d ∈ (s.slice start stop h).copy.toList) : d ≠ c := by
  have hothers : IsLongestMatchAtChain (fun d => d != c) start stop := by
    refine CharPred.isLongestMatchAtChain_iff.2 ⟨h, fun pos hstart hstop => bne_iff_ne.2 fun hget => ?_⟩
    exact hpassed pos hstart hstop (Char.matchesAt_iff.2 ⟨_, hget⟩)
  obtain ⟨_, hall⟩ := CharPred.isLongestMatchAtChain_iff_toList.1 hothers
  exact bne_iff_ne.1 (hall d hd)

/-- what a search passes over is written as it stands -/
theorem flatMap_replacement_slice (h : start ≤ stop) (hpassed : ∀ pos, start ≤ pos → pos < stop → ¬MatchesAt c pos) :
    (s.slice start stop h).copy.toList.flatMap (replacement c t) = (s.slice start stop h).copy.toList :=
  (List.flatMap_congr fun _ hd => if_neg (ne_of_mem_slice h hpassed hd)).trans (List.flatMap_singleton' _)

/-- the steps of a search, each written after what is there -/
theorem toList_foldl_steps {steps : List (SearchStep s)} {sofar : String} {write : String → SearchStep s → String}
    (hmatched : ∀ sofar start stop, (write sofar (.matched start stop)).toList = sofar.toList ++ t.toList)
    (hrejected : ∀ sofar start stop,
      (write sofar (.rejected start stop)).toList = sofar.toList ++ (s.slice! start stop).copy.toList)
    (hsteps : IsValidSearchFrom c start steps) :
    (steps.foldl write sofar).toList = sofar.toList ++ (s.sliceFrom start).copy.toList.flatMap (replacement c t) := by
  induction hsteps generalizing sofar with
  | endPos => simp
  | matched hmatch _ ih =>
    obtain ⟨hne, rfl, rfl⟩ := Char.isLongestMatchAt_iff.1 hmatch
    rw [List.foldl_cons, ih, hmatched, (String.Slice.Pos.splits_next_right _ hne).copy_sliceFrom_eq]
    simp [replacement]
  | mismatched hlt hpassed _ ih =>
    have hle := Std.le_of_lt hlt
    rw [List.foldl_cons, ih, hrejected, copy_sliceFrom_eq_append hle, ← String.Slice.slice_eq_slice! (h := hle)]
    simp [flatMap_replacement_slice hle hpassed]

end Search

/-- **Replacing a character** puts the other text wherever it stands, and leaves all other characters as they are. -/
theorem toList_replace (s : String) (c : Char) (t : String) :
    (s.replace c t).toList = s.toList.flatMap (replacement c t) := by
  have hsteps : IsValidSearchFrom c s.toSlice.startPos (ToForwardSearcher.toSearcher c s.toSlice).toList :=
    LawfulToForwardSearcherModel.isValidSearchFrom_toList s.toSlice
  rw [String.replace, String.Slice.replace, ← Std.Iter.foldl_toList,
    toList_foldl_steps (t := t) (fun sofar start stop => ?_) (fun sofar start stop => ?_) hsteps]
  · -- nothing is written before the first step, and the whole text is still to be searched
    simp
  · simp [String.ToSlice.toSlice]
  · simp

end CallAtlas.Text
