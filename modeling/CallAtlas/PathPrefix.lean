/-
Import paths under a prefix.

`hasPrefix path q` holds when `path` is `q` or continues it at a slash, so a prefix covers whole segments only; a
prefix that ends in a slash covers only what lies below it. `isStandardLibrary` tells the packages that come with a
toolchain by their shape: a single segment that is none of the program's own. `lastSegment` is what stands after the
last slash (`isLastSegment_iff`).
-/
import CallAtlas.Text.Pieces

namespace CallAtlas

/-- a path is a prefix or lies below it -/
def hasPrefix (path q : String) : Bool :=
  let cs := path.toList
  let qs := q.toList
  if qs.getLast? = some '/' then qs.isPrefixOf cs
  else qs.isPrefixOf cs && ((cs.drop qs.length).head?.all (· == '/'))

theorem hasPrefix_self (path : String) : hasPrefix path path = true := by
  simp [hasPrefix]

/-- a path of one segment is under no prefix but itself -/
theorem hasPrefix_iff_eq {path q : String} (h : '/' ∉ path.toList) : hasPrefix path q = true ↔ q = path := by
  refine ⟨fun hq => ?_, fun hq => hq ▸ hasPrefix_self q⟩
  unfold hasPrefix at hq
  dsimp only at hq
  split at hq
  next hlast =>
    have hslash : '/' ∈ q.toList := List.mem_of_getLast? hlast
    exact absurd ((List.isPrefixOf_iff_prefix.1 hq).subset hslash) h
  next =>
    obtain ⟨hstart, hrest⟩ := Bool.and_eq_true_iff.1 hq
    obtain ⟨rest, hpath⟩ := List.isPrefixOf_iff_prefix.1 hstart
    rw [← hpath, List.drop_left] at hrest
    cases rest with
    | nil => exact String.toList_injective (by simpa using hpath)
    | cons c rest =>
      have hc : c = '/' := by simpa using hrest
      exact absurd (hpath ▸ by simp [hc]) h

/-- a path is under one of the prefixes -/
def hasAnyPrefix (path : String) (qs : List String) : Bool :=
  qs.any (hasPrefix path)

theorem hasAnyPrefix_iff_mem {path : String} {qs : List String} (h : '/' ∉ path.toList) :
    hasAnyPrefix path qs = true ↔ path ∈ qs := by
  simp [hasAnyPrefix, hasPrefix_iff_eq h]

/-- a package of the toolchain: a single segment outside the program's own modules -/
def isStandardLibrary (path : String) (own : List String) : Bool :=
  !path.toList.contains '/' && !hasAnyPrefix path own

/-- the last segment of a path -/
def lastSegment (path : String) : String :=
  ((Text.pieces '/' path).getLast?).getD path

/-- a text is the last segment of a path: it has no slash, and stands alone or after a slash -/
structure IsLastSegment (path segment : String) : Prop where
  slashFree : '/' ∉ segment.toList
  ends : path = segment ∨ ∃ front, path = front ++ "/" ++ segment

theorem lastSegment_eq_of_isLastSegment {path segment : String} (h : IsLastSegment path segment) :
    lastSegment path = segment := by
  have hlast : Text.pieces '/' segment = [segment] := Text.pieces_eq_singleton h.slashFree
  rcases h.ends with rfl | ⟨front, rfl⟩
  · simp [lastSegment, hlast]
  · have hpieces : Text.pieces '/' (front ++ "/" ++ segment) = Text.pieces '/' front ++ [segment] := by
      rw [← hlast]
      exact Text.pieces_append '/' front segment
    simp [lastSegment, hpieces]

theorem isLastSegment_lastSegment (path : String) : IsLastSegment path (lastSegment path) := by
  have hpath : Text.joined '/' (Text.pieces '/' path) = path := Text.joined_pieces '/' path
  rcases List.eq_nil_or_concat (Text.pieces '/' path) with hnil | ⟨front, last, hpieces⟩
  · have hempty : path = "" := by
      rw [← hpath, hnil]
      rfl
    exact ⟨by simp [lastSegment, hempty, Text.pieces], Or.inl (by simp [lastSegment, hnil])⟩
  rw [List.concat_eq_append] at hpieces
  have hfree : ∀ segment ∈ front ++ [last], '/' ∉ segment.toList :=
    fun segment hsegment => Text.notMem_of_mem_pieces (hpieces ▸ hsegment)
  have hlast : lastSegment path = last := by simp [lastSegment, hpieces]
  rw [hlast]
  refine ⟨hfree last (by simp), ?_⟩
  by_cases hfront : front = []
  · left
    rw [← hpath, hpieces, hfront]
    simp [Text.joined]
  · right
    -- a text with the same pieces is the same text
    have hsame : Text.pieces '/' (Text.joined '/' front ++ "/" ++ last) = Text.pieces '/' path := by
      calc Text.pieces '/' (Text.joined '/' front ++ "/" ++ last)
        _ = Text.pieces '/' (Text.joined '/' front) ++ Text.pieces '/' last := Text.pieces_append '/' _ _
        _ = front ++ [last] := by
          rw [Text.pieces_joined (fun s hs => hfree s (List.mem_append_left _ hs)) hfront,
            Text.pieces_eq_singleton (hfree last (by simp))]
        _ = Text.pieces '/' path := hpieces.symm
    exact ⟨Text.joined '/' front, by rw [← hpath, ← hsame, Text.joined_pieces]⟩

/-- each path has one last segment -/
theorem isLastSegment_iff {path segment : String} : IsLastSegment path segment ↔ lastSegment path = segment :=
  ⟨lastSegment_eq_of_isLastSegment, fun h => h ▸ isLastSegment_lastSegment path⟩

end CallAtlas
