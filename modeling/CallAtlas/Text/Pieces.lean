/-
Texts cut at a separator.

`pieces sep s` are the texts between the separators of `s`, one more than there are separators; `splitList` reads a list
typed by hand, cut at commas, without the blanks around an entry and without empty entries.
-/
import CallAtlas.Text.Blank

namespace CallAtlas.Text

/-- the texts between the separators -/
def pieces (sep : Char) (s : String) : List String :=
  (s.toList.splitOn sep).map String.ofList

/-- texts with a separator between each two -/
def joined (sep : Char) (parts : List String) : String :=
  String.ofList ([sep].intercalate (parts.map String.toList))

/-- entries trimmed, blank ones left out -/
def trimmedEntries (entries : List String) : List String :=
  (entries.map trim).filter (· ≠ "")

/-- the entries of a comma separated list -/
def splitList (s : String) : List String :=
  trimmedEntries (pieces ',' s)

/-- joining the pieces gives the text back -/
theorem joined_pieces (sep : Char) (s : String) : joined sep (pieces sep s) = s := by
  simp [joined, pieces, List.map_map, Function.comp_def, String.toList_ofList, List.intercalate_splitOn]

/-- texts without the separator are the pieces of their join -/
theorem pieces_joined {sep : Char} {parts : List String} (hsep : ∀ p ∈ parts, sep ∉ p.toList) (hne : parts ≠ []) :
    pieces sep (joined sep parts) = parts := by
  have h : List.splitOn sep ([sep].intercalate (parts.map String.toList)) = parts.map String.toList :=
    List.splitOn_intercalate sep (by simpa using hsep) (by simpa using hne)
  simp [joined, pieces, h, List.map_map, Function.comp_def, String.ofList_toList]

/-- a text without the separator is its only piece -/
theorem pieces_eq_singleton {sep : Char} {s : String} (h : sep ∉ s.toList) : pieces sep s = [s] := by
  have hone : joined sep [s] = s := by simp [joined]
  have hsep : ∀ p ∈ [s], sep ∉ p.toList := by simpa using h
  calc pieces sep s
    _ = pieces sep (joined sep [s]) := by rw [hone]
    _ = [s] := pieces_joined hsep (List.cons_ne_nil _ _)

/-- texts with a separator between them are cut into the pieces of each -/
theorem pieces_append (sep : Char) (a b : String) :
    pieces sep (a ++ String.singleton sep ++ b) = pieces sep a ++ pieces sep b := by
  simp [pieces, String.toList_append, List.splitOn_append_cons_self]

/-- no piece holds the separator -/
theorem notMem_of_mem_pieces {sep : Char} {s piece : String} (h : piece ∈ pieces sep s) : sep ∉ piece.toList := by
  suffices hcut : ∀ cs : List Char, ∀ cut ∈ cs.splitOn sep, sep ∉ cut by
    obtain ⟨cut, hmem, rfl⟩ := List.mem_map.1 h
    simpa using hcut s.toList cut hmem
  intro cs
  induction cs with
  | nil => simp
  | cons c cs ih =>
    rw [List.splitOn_cons_eq_if_modifyHead]
    split
    · simpa using ih
    next hc =>
      cases hcuts : cs.splitOn sep with
      | nil => simp
      | cons first cuts =>
        rw [hcuts, List.forall_mem_cons] at ih
        have hne : sep ≠ c := fun h => hc (by simp [h])
        simpa [hne] using ih

theorem mem_trimmedEntries {entries : List String} {e : String} :
    e ∈ trimmedEntries entries ↔ e ≠ "" ∧ ∃ entry ∈ entries, trim entry = e := by
  simp [trimmedEntries, and_comm]

/-- entries that are trimmed and not blank stay as they are -/
theorem trimmedEntries_eq_self {entries : List String} (h : ∀ e ∈ entries, e ≠ "" ∧ trim e = e) :
    trimmedEntries entries = entries := by
  have hmap : entries.map trim = entries := List.map_congr_left (fun e he => (h e he).2) |>.trans (List.map_id _)
  rw [trimmedEntries, hmap, List.filter_eq_self]
  exact fun e he => decide_eq_true (h e he).1

@[simp] theorem trimmedEntries_trimmedEntries (entries : List String) :
    trimmedEntries (trimmedEntries entries) = trimmedEntries entries := by
  refine trimmedEntries_eq_self fun e he => ?_
  obtain ⟨hne, entry, -, rfl⟩ := mem_trimmedEntries.1 he
  exact ⟨hne, trim_trim entry⟩

theorem trimmedEntries_append (a b : List String) :
    trimmedEntries (a ++ b) = trimmedEntries a ++ trimmedEntries b := by
  simp [trimmedEntries]

end CallAtlas.Text
