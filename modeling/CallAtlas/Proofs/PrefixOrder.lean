/-
Prefixes as an order on paths.

A path is the list of its segments, and `hasPrefix` is decided by characters. The two agree, whatever the path and the
prefix are, empty segments at either end or in the middle included.
- `hasPrefix_iff_segments`: a prefix that does not end in a slash covers the paths that continue its segments.
- `hasPrefix_slash_iff`: a slash more at its end leaves out the prefix itself.
- `hasPrefix_trans` and `hasPrefix_antisymm`: with `hasPrefix_self`, prefixes order the paths.
- `prefixes_order_paths`: all of this, and that an entry of a filter that lies under another one says nothing new.
-/
import CallAtlas.Selection

namespace CallAtlas

variable {a b c path q : String}

/-! ## Segments -/

section Segments

variable {α : Type}

theorem intercalate_append (sep : List α) {xs ys : List (List α)} (hxs : xs ≠ []) (hys : ys ≠ []) :
    sep.intercalate (xs ++ ys) = sep.intercalate xs ++ sep ++ sep.intercalate ys := by
  induction xs with
  | nil => exact absurd rfl hxs
  | cons x xs ih =>
    cases xs with
    | nil => rw [List.singleton_append, List.intercalate_cons_of_ne_nil hys, List.intercalate_singleton]
    | cons x' xs =>
      rw [List.cons_append, List.intercalate_cons_of_ne_nil (by simp), ih (by simp), List.intercalate_cons_cons]
      simp only [List.append_assoc]

variable [DecidableEq α] {sep : α} {xs ys : List α}

/-- pieces continue other pieces exactly where the text goes on at a separator -/
theorem splitOn_prefix_iff : xs.splitOn sep <+: ys.splitOn sep ↔ ys = xs ∨ ∃ rest, ys = xs ++ sep :: rest := by
  constructor
  · rintro ⟨more, hmore⟩
    have hys : ys = [sep].intercalate (xs.splitOn sep ++ more) := by rw [hmore, List.intercalate_splitOn]
    cases more with
    | nil => exact Or.inl (by rw [hys, List.append_nil, List.intercalate_splitOn])
    | cons m ms =>
      refine Or.inr ⟨[sep].intercalate (m :: ms), ?_⟩
      rw [hys, intercalate_append _ (List.splitOn_ne_nil _ _) (List.cons_ne_nil _ _), List.intercalate_splitOn]
      simp
  · rintro (rfl | ⟨rest, rfl⟩)
    · exact List.prefix_rfl
    · rw [List.splitOn_append_cons_self]
      exact List.prefix_append _ _

end Segments

theorem pieces_prefix_iff {sep : Char} :
    Text.pieces sep q <+: Text.pieces sep path ↔
      path.toList = q.toList ∨ ∃ rest, path.toList = q.toList ++ sep :: rest := by
  rw [Text.pieces, Text.pieces, List.prefix_map_iff_of_injective fun _ _ => String.ofList_injective,
    splitOn_prefix_iff]

/-- a text is told by its pieces -/
theorem pieces_inj {sep : Char} : Text.pieces sep path = Text.pieces sep q ↔ path = q := by
  refine ⟨fun h => ?_, fun h => h ▸ rfl⟩
  rw [← Text.joined_pieces sep path, h, Text.joined_pieces]

/-! ## The order -/

/-- what follows a prefix is nothing or starts at a slash, unless the prefix brings a slash of its own -/
theorem hasPrefix_iff :
    hasPrefix path q = true ↔
      ∃ rest, path.toList = q.toList ++ rest ∧
        (q.toList.getLast? = some '/' ∨ rest = [] ∨ rest.head? = some '/') := by
  have hhead : ∀ rest : List Char, (rest.head?.all (· == '/')) = true ↔ rest = [] ∨ rest.head? = some '/' := by
    intro rest
    cases rest <;> simp
  unfold hasPrefix
  dsimp only
  split
  next hlast =>
    rw [List.isPrefixOf_iff_prefix]
    constructor
    · rintro ⟨rest, hrest⟩
      exact ⟨rest, hrest.symm, Or.inl hlast⟩
    · rintro ⟨rest, hrest, -⟩
      exact ⟨rest, hrest.symm⟩
  next hlast =>
    rw [Bool.and_eq_true, List.isPrefixOf_iff_prefix]
    constructor
    · rintro ⟨⟨rest, hrest⟩, hnext⟩
      rw [← hrest, List.drop_left, hhead] at hnext
      exact ⟨rest, hrest.symm, Or.inr hnext⟩
    · rintro ⟨rest, hrest, hends⟩
      refine ⟨⟨rest, hrest.symm⟩, ?_⟩
      rw [hrest, List.drop_left, hhead]
      exact hends.resolve_left hlast

theorem hasPrefix_iff_segments (h : q.toList.getLast? ≠ some '/') :
    hasPrefix path q = true ↔ Text.pieces '/' q <+: Text.pieces '/' path := by
  rw [hasPrefix_iff, pieces_prefix_iff]
  constructor
  · rintro ⟨rest, hpath, hends⟩
    rcases hends.resolve_left h with rfl | hhead
    · exact Or.inl (by rw [hpath, List.append_nil])
    · obtain ⟨rest, rfl⟩ := List.head?_eq_some_iff.1 hhead
      exact Or.inr ⟨rest, hpath⟩
  · rintro (hpath | ⟨rest, hpath⟩)
    · exact ⟨[], by rw [hpath, List.append_nil], Or.inr (Or.inl rfl)⟩
    · exact ⟨'/' :: rest, hpath, Or.inr (Or.inr rfl)⟩

theorem hasPrefix_slash_iff :
    hasPrefix path (q ++ "/") = true ↔
      Text.pieces '/' q <+: Text.pieces '/' path ∧ Text.pieces '/' path ≠ Text.pieces '/' q := by
  have hslash : (q ++ "/").toList = q.toList ++ ['/'] := by simp
  have hlast : (q ++ "/").toList.getLast? = some '/' := by simp [hslash]
  rw [hasPrefix_iff, pieces_prefix_iff, Ne, pieces_inj]
  constructor
  · rintro ⟨rest, hpath, -⟩
    rw [hslash, List.append_assoc, List.singleton_append] at hpath
    refine ⟨Or.inr ⟨rest, hpath⟩, ?_⟩
    rintro rfl
    simp at hpath
  · rintro ⟨hpath | ⟨rest, hpath⟩, hne⟩
    · exact absurd (String.toList_injective hpath) hne
    · exact ⟨rest, by rw [hpath, hslash, List.append_assoc, List.singleton_append], Or.inl hlast⟩

theorem hasPrefix_trans (hab : hasPrefix a b = true) (hbc : hasPrefix b c = true) : hasPrefix a c = true := by
  obtain ⟨rest, ha, hrest⟩ := hasPrefix_iff.1 hab
  obtain ⟨rest', hb, hrest'⟩ := hasPrefix_iff.1 hbc
  refine hasPrefix_iff.2 ⟨rest' ++ rest, by rw [ha, hb, List.append_assoc], ?_⟩
  rcases hrest' with hlast | rfl | hhead
  · exact Or.inl hlast
  · -- `b` and `c` are the same text, and what ends `b` ends `c`
    rw [List.append_nil] at hb
    rwa [List.nil_append, ← hb]
  · exact Or.inr (Or.inr (by rw [List.head?_append, hhead, Option.some_or]))

theorem hasPrefix_antisymm (hab : hasPrefix a b = true) (hba : hasPrefix b a = true) : a = b := by
  obtain ⟨rest, ha, -⟩ := hasPrefix_iff.1 hab
  obtain ⟨rest', hb, -⟩ := hasPrefix_iff.1 hba
  have hstart : a.toList <+: b.toList := ⟨rest', hb.symm⟩
  have hlength : b.toList.length ≤ a.toList.length := by simp [ha]
  exact String.toList_injective (hstart.eq_of_length_le hlength)

/-! ## Redundant entries -/

/-- a list of prefixes covers no more with entries that lie under others of them -/
theorem hasAnyPrefix_eq {qs qs' : List String} (hsub : qs' ⊆ qs)
    (hcover : ∀ q ∈ qs, ∃ r ∈ qs', hasPrefix q r = true) (path : String) :
    hasAnyPrefix path qs = hasAnyPrefix path qs' := by
  rw [Bool.eq_iff_iff, hasAnyPrefix, hasAnyPrefix, List.any_eq_true, List.any_eq_true]
  constructor
  · rintro ⟨q, hq, hpath⟩
    obtain ⟨r, hr, hqr⟩ := hcover q hq
    exact ⟨r, hr, hasPrefix_trans hpath hqr⟩
  · rintro ⟨q, hq, hpath⟩
    exact ⟨q, hsub hq, hpath⟩

/-- one entry that lies under another one -/
theorem hasAnyPrefix_delete {before after : List String} (h : ∃ r ∈ before ++ after, hasPrefix q r = true)
    (path : String) : hasAnyPrefix path (before ++ q :: after) = hasAnyPrefix path (before ++ after) := by
  have hsub : before ++ after ⊆ before ++ q :: after :=
    (List.Sublist.append_left (List.sublist_cons_self q after) before).subset
  refine hasAnyPrefix_eq hsub (fun r hr => ?_) path
  rcases List.mem_append.1 hr with hr | hr
  · exact ⟨r, List.mem_append_left _ hr, hasPrefix_self r⟩
  · rcases List.mem_cons.1 hr with rfl | hr
    · exact h
    · exact ⟨r, List.mem_append_right _ hr, hasPrefix_self r⟩

/-- a filter asks of its lists which paths they cover, and of the limit whether it is empty -/
theorem Filter.keepsPath_congr {filter filter' : Filter} {own libraries : List String}
    (hstd : filter.omitStd = filter'.omitStd) (hempty : filter.limit = [] ↔ filter'.limit = [])
    (hlimit : hasAnyPrefix path filter.limit = hasAnyPrefix path filter'.limit)
    (hignore : hasAnyPrefix path filter.ignore = hasAnyPrefix path filter'.ignore) :
    filter.keepsPath own libraries path = filter'.keepsPath own libraries path := by
  simp only [keepsPath, hstd, hlimit, hignore, ne_eq, hempty]

/-- **Prefixes order paths by their segments.** A prefix without a slash at its end covers the paths that start with its
segments, one with a slash those that have more segments besides. Paths are ordered by this, and so an entry of a filter
that has another one of the same list as a prefix can be deleted. -/
theorem prefixes_order_paths :
    (∀ path q : String, q.toList.getLast? ≠ some '/' →
      (hasPrefix path q = true ↔ Text.pieces '/' q <+: Text.pieces '/' path)) ∧
    (∀ path q : String, hasPrefix path (q ++ "/") = true ↔
      Text.pieces '/' q <+: Text.pieces '/' path ∧ Text.pieces '/' path ≠ Text.pieces '/' q) ∧
    (∀ path, hasPrefix path path = true) ∧
    (∀ a b c, hasPrefix a b = true → hasPrefix b c = true → hasPrefix a c = true) ∧
    (∀ a b, hasPrefix a b = true → hasPrefix b a = true → a = b) ∧
    ∀ (filter : Filter) (before after : List String) (q : String), (∃ r ∈ before ++ after, hasPrefix q r = true) →
      ∀ own libraries path,
        (filter.limit = before ++ q :: after →
          { filter with limit := before ++ after }.keepsPath own libraries path =
            filter.keepsPath own libraries path) ∧
        (filter.ignore = before ++ q :: after →
          { filter with ignore := before ++ after }.keepsPath own libraries path =
            filter.keepsPath own libraries path) := by
  refine ⟨fun path q => hasPrefix_iff_segments, fun path q => hasPrefix_slash_iff, hasPrefix_self,
    fun a b c => hasPrefix_trans, fun a b => hasPrefix_antisymm, ?_⟩
  intro filter before after q hcover own libraries path
  have hdelete := hasAnyPrefix_delete hcover path
  obtain ⟨r, hr, -⟩ := hcover
  have hne : before ++ after ≠ [] := List.ne_nil_of_mem hr
  constructor
  · intro hlimit
    refine Filter.keepsPath_congr rfl ?_ ?_ rfl
    · simp [hlimit, hne]
    · exact hdelete.symm.trans (by rw [hlimit])
  · intro hignore
    exact Filter.keepsPath_congr rfl Iff.rfl rfl (hdelete.symm.trans (by rw [hignore]))

/-- a limit in which the first entry lies under the second, with a slash at its end -/
def nestedLimit : Filter where
  limit := ["app/store/", "app"]
  ignore := ["app/store/disk"]

/-- the entry below the other one can go, and what it covers is covered still -/
theorem prefixes_order_paths_nested :
    ("app".toList.getLast? ≠ some '/' ∧ hasPrefix "app/store/cache" "app/store/" = true ∧
      hasPrefix "app/store/" "app" = true ∧ nestedLimit.limit = [] ++ "app/store/" :: ["app"]) ∧
      Text.pieces '/' "app" <+: Text.pieces '/' "app/store/cache" ∧ hasPrefix "app/store/cache" "app" = true ∧
        { nestedLimit with limit := ["app"] }.keepsPath [] [] "app/store/cache" =
          nestedLimit.keepsPath [] [] "app/store/cache" := by
  obtain ⟨hsegments, -, -, htrans, -, hdelete⟩ := prefixes_order_paths
  have hbare : "app".toList.getLast? ≠ some '/' := by decide
  have hbelow : hasPrefix "app/store/cache" "app/store/" = true := by decide
  have habove : hasPrefix "app/store/" "app" = true := by decide
  have hcovered : hasPrefix "app/store/cache" "app" = true := htrans _ _ _ hbelow habove
  have hdelete := (hdelete nestedLimit [] ["app"] "app/store/" ⟨"app", by decide, habove⟩ [] [] "app/store/cache").1 rfl
  exact ⟨⟨hbare, hbelow, habove, rfl⟩, (hsegments _ _ hbare).1 hcovered, hcovered, hdelete⟩

end CallAtlas
