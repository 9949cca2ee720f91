/-
The nearest settings file.

`Path.Spells` says which names an absolute path goes through, `FileTree.Holds` that a directory has a regular file of a
name. Both are about names and not about texts: slashes may be repeated and may stand at the end.
- `forall₂_ancestors`: the paths that discovery tries are, from the inside out, the start and the directories around it.
- `locate?_join`: a file in a directory is found by its path exactly if the directory is there.
- `FileTree.Innermost`: of a directory and those around it, the innermost that holds the file. The search stops there,
  or runs through to the root if there is none (`find?_candidates`).
- `prefix_seat_iff`: a start that is a regular file stands for its directory, and nothing is missed by that.
- `Discovery.nearest_read`: discovery reads the innermost file and no other, also when that file cannot be loaded.
-/
import Mathlib.Data.List.Forall2
import Mathlib.Data.List.Infix
import CallAtlas.Files.Tree
import CallAtlas.Settings.Discovery

namespace CallAtlas

/-! ## Paths and the names that they go through -/

namespace Path

/-- a list of names and the lists that lead there, longest first -/
def upwards (names : List String) : List (List String) :=
  names.inits.reverse

theorem upwards_concat (names : List String) (name : String) :
    upwards (names ++ [name]) = (names ++ [name]) :: upwards names := by
  simp [upwards, List.inits_append]

theorem upwards_eq_cons (names : List String) : upwards names = names :: (upwards names).tail := by
  rcases List.eq_nil_or_concat' names with rfl | ⟨names, name, rfl⟩
  · rfl
  · simp [upwards_concat]

/-- a segment that is neither a dot nor two dots; an empty one stands between two slashes -/
def IsPlain (segment : String) : Prop :=
  segment ≠ "." ∧ segment ≠ ".." ∧ '/' ∉ segment.toList

instance : DecidablePred IsPlain :=
  fun _ => by unfold IsPlain; infer_instance

/-- the names among some segments -/
def named (segments : List String) : List String :=
  segments.filter (· ≠ "")

/-- an absolute path goes through the given names and through neither a dot nor two dots -/
structure Spells (path : String) (names : List String) : Prop where
  absolute : path.toList.head? = some '/'
  named : named (Text.pieces '/' path) = names
  plain : "." ∉ names ∧ ".." ∉ names

variable {path name : String} {names segments : List String}

theorem isIdle_iff {segment : String} (h : IsPlain segment) : isIdle segment = true ↔ segment = "" := by
  simp [isIdle, h.1]

theorem named_reverse (segments : List String) : named segments.reverse = (named segments).reverse :=
  List.filter_reverse ..

theorem named_append (a b : List String) : named (a ++ b) = named a ++ named b :=
  List.filter_append ..

theorem named_dropWhile (h : ∀ s ∈ segments, IsPlain s) : named (segments.dropWhile isIdle) = named segments := by
  induction segments with
  | nil => rfl
  | cons s segments ih =>
    obtain ⟨hs, hrest⟩ := List.forall_mem_cons.1 h
    by_cases hempty : s = ""
    · rw [List.dropWhile_cons_of_pos ((isIdle_iff hs).2 hempty), ih hrest, hempty]
      rfl
    · rw [List.dropWhile_cons_of_neg (mt (isIdle_iff hs).1 hempty)]

theorem isPlain_of_spells (h : Spells path names) : ∀ s ∈ Text.pieces '/' path, IsPlain s := by
  intro s hs
  have hnamed : s ≠ "" → s ∈ names := fun hne => h.named ▸ List.mem_filter.2 ⟨hs, by simpa using hne⟩
  refine ⟨?_, ?_, Text.notMem_of_mem_pieces hs⟩
  · rintro rfl
    exact h.plain.1 (hnamed (by decide))
  · rintro rfl
    exact h.plain.2 (hnamed (by decide))

/-- an absolute path is cut in front of its first slash -/
theorem pieces_of_absolute (h : path.toList.head? = some '/') : ∃ segments, Text.pieces '/' path = "" :: segments := by
  obtain ⟨rest, hrest⟩ := List.head?_eq_some_iff.1 h
  have hpath : path = "" ++ String.singleton '/' ++ String.ofList rest := by
    apply String.toList_injective
    simp [hrest]
  refine ⟨Text.pieces '/' (String.ofList rest), ?_⟩
  conv_lhs => rw [hpath]
  exact Text.pieces_append '/' "" _

/-! ### The directories around a path -/

theorem spells_ofReversed (h : ∀ s ∈ segments, IsPlain s) : Spells (ofReversed segments) (named segments.reverse) := by
  have hpieces : named (Text.pieces '/' (ofReversed segments)) = named segments.reverse := by
    have hcut : Text.pieces '/' (ofReversed segments) = [""] ++ Text.pieces '/' (Text.joined '/' segments.reverse) :=
      Text.pieces_append '/' "" _
    rw [hcut]
    by_cases hne : segments.reverse = []
    · rw [hne]
      decide
    · rw [Text.pieces_joined (fun s hs => (h s (List.mem_reverse.1 hs)).2.2) hne]
      rfl
  refine ⟨by simp [ofReversed], hpieces, fun hdot => ?_, fun hdots => ?_⟩
  · exact (h "." (List.mem_reverse.1 (List.mem_of_mem_filter hdot))).1 rfl
  · exact (h ".." (List.mem_reverse.1 (List.mem_of_mem_filter hdots))).2.1 rfl

/-- what is left in front after leaving out is a name -/
theorem ne_empty_of_head? (h : ∀ s ∈ segments, IsPlain s) : ∀ s ∈ (segments.dropWhile isIdle).head?, s ≠ "" := by
  intro s hs
  have hidle := List.head?_dropWhile_not isIdle segments
  rw [Option.mem_def.1 hs] at hidle
  have hplain : IsPlain s := h s ((List.dropWhile_sublist isIdle).subset (List.mem_of_mem_head? hs))
  exact mt (isIdle_iff hplain).2 (by simpa using hidle)

/-- leaving out the last segment again and again spells the shorter and shorter lists of names -/
theorem forall₂_enclosing (h : ∀ s ∈ segments, IsPlain s) (hlast : ∀ s ∈ segments.head?, s ≠ "") :
    List.Forall₂ Spells (enclosing segments) (upwards (named segments.reverse)).tail := by
  fun_induction enclosing segments with
  | case1 => exact List.Forall₂.nil
  | case2 s r ih =>
    have hplain : ∀ s ∈ r, IsPlain s := fun s hs => h s (List.mem_cons_of_mem _ hs)
    have hr : ∀ s ∈ r.dropWhile isIdle, IsPlain s :=
      fun s hs => hplain s ((List.dropWhile_sublist isIdle).subset hs)
    have hnames : named (s :: r).reverse = named (r.dropWhile isIdle).reverse ++ [s] := by
      have hs : s ≠ "" := hlast s rfl
      rw [List.reverse_cons, named_append, named_reverse r, named_reverse (r.dropWhile isIdle),
        named_dropWhile hplain]
      simp [named, hs]
    rw [hnames, upwards_concat, List.tail_cons, upwards_eq_cons]
    exact List.Forall₂.cons (spells_ofReversed hr) (ih hr (ne_empty_of_head? hplain))

/-- **Paths on the way up.** A path and the directories around it go through its names and through all shorter lists of
them, down to the root. -/
theorem forall₂_ancestors (h : Spells path names) : List.Forall₂ Spells (ancestors path) (upwards names) := by
  obtain ⟨segments, hsegments⟩ := pieces_of_absolute h.absolute
  have hplain : ∀ s ∈ segments.reverse, IsPlain s := fun s hs =>
    isPlain_of_spells h s (hsegments ▸ List.mem_cons_of_mem _ (List.mem_reverse.1 hs))
  have hreversed : reversed path = segments.reverse := by rw [reversed, hsegments, List.drop_one, List.tail_cons]
  have hnames : named ((reversed path).dropWhile isIdle).reverse = names := by
    rw [hreversed, named_reverse, named_dropWhile hplain, named_reverse, List.reverse_reverse, ← h.named, hsegments]
    rfl
  rw [upwards_eq_cons]
  refine List.Forall₂.cons h ?_
  rw [← hnames, hreversed]
  exact forall₂_enclosing (fun s hs => hplain s ((List.dropWhile_sublist isIdle).subset hs)) (ne_empty_of_head? hplain)

/-! ### A name inside a directory -/

theorem isPlain_fileName : IsPlain Discovery.fileName := by decide +kernel

/-- a name put at the end of a path becomes its last segment, and no other name comes in -/
theorem exists_pieces_join (path : String) (hname : '/' ∉ name.toList) :
    ∃ segments, Text.pieces '/' (join path name) = segments ++ [name] ∧ segments ⊆ Text.pieces '/' path ∧
      named segments = named (Text.pieces '/' path) := by
  have hlast : Text.pieces '/' name = [name] := Text.pieces_eq_singleton hname
  unfold join
  split
  next hslash =>
    obtain ⟨front, hfront⟩ := List.getLast?_eq_some_iff.1 hslash
    have hpath : path = String.ofList front ++ String.singleton '/' := by
      apply String.toList_injective
      simp [hfront]
    have hpieces : Text.pieces '/' path = Text.pieces '/' (String.ofList front) ++ [""] := by
      calc Text.pieces '/' path
        _ = Text.pieces '/' (String.ofList front ++ String.singleton '/' ++ "") := by rw [String.append_empty, ← hpath]
        _ = Text.pieces '/' (String.ofList front) ++ [""] := Text.pieces_append '/' _ ""
    refine ⟨Text.pieces '/' (String.ofList front), ?_, ?_, ?_⟩
    · rw [hpath, Text.pieces_append, hlast]
    · rw [hpieces]
      exact List.subset_append_left _ _
    · rw [hpieces, named_append]
      exact (List.append_nil _).symm
  next =>
    refine ⟨Text.pieces '/' path, ?_, List.Subset.refl _, rfl⟩
    rw [← hlast]
    exact Text.pieces_append '/' path name

theorem head?_join (h : path.toList.head? = some '/') (name : String) : (join path name).toList.head? = some '/' := by
  unfold join
  split
  · simp [h]
  · simp [h]

theorem spells_join (h : Spells path names) (hname : IsPlain name) (hne : name ≠ "") :
    Spells (join path name) (names ++ [name]) := by
  obtain ⟨segments, hpieces, -, hnamed⟩ := exists_pieces_join path hname.2.2
  refine ⟨head?_join h.absolute name, ?_, ?_, ?_⟩
  · rw [hpieces, named_append, hnamed, h.named]
    simp [named, hne]
  · simp [h.plain.1, hname.1.symm]
  · simp [h.plain.2, hname.2.1.symm]

end Path

/-! ## Files in directories -/

namespace FileTree

variable {t : FileTree} {place names directory steps : List String} {name : String} {f : File}

/-- a directory stands at a list of names and at all that lead there -/
def HasDirectory (t : FileTree) (names : List String) : Prop :=
  ∀ outer, outer <+: names → t.find? outer = some .directory

/-- a directory has a certain regular file under a name -/
structure Holds (t : FileTree) (directory : List String) (name : String) (f : File) : Prop where
  reached : t.HasDirectory directory
  file : t.find? (directory ++ [name]) = some (.file f)

theorem hasDirectory_nil (t : FileTree) : t.HasDirectory [] := by
  intro outer houter
  rw [List.prefix_nil.1 houter]
  rfl

theorem hasDirectory_concat (h : t.HasDirectory names) (hname : t.find? (names ++ [name]) = some .directory) :
    t.HasDirectory (names ++ [name]) := by
  intro outer houter
  rcases List.prefix_concat_iff.1 houter with rfl | hshorter
  · exact hname
  · exact h outer hshorter

instance (t : FileTree) (names : List String) : Decidable (t.HasDirectory names) :=
  decidable_of_iff (∀ outer ∈ names.inits, t.find? outer = some .directory) (by simp [HasDirectory])

theorem Holds.file_eq {f' : File} (h : t.Holds directory name f) (h' : t.Holds directory name f') : f = f' := by
  simpa using h.file.symm.trans h'.file

/-! ### Walking through plain segments -/

theorem walk?_eq_none (hplace : t.find? place ≠ some .directory) (hsteps : steps ≠ []) :
    t.walk? place steps = none := by
  obtain ⟨step, r, rfl⟩ := List.exists_cons_of_ne_nil hsteps
  rw [walk?, if_pos hplace]

theorem walk?_empty_cons (hplace : t.find? place = some .directory) :
    t.walk? place ("" :: steps) = t.walk? place steps := by
  rw [walk?, if_neg (not_not_intro hplace), if_pos (by decide)]

theorem walk?_name_cons (hplace : t.find? place = some .directory) (hname : Path.IsPlain name) (hne : name ≠ "") :
    t.walk? place (name :: steps) = t.walk? (place ++ [name]) steps := by
  have hidle : ¬ Path.isIdle name = true := mt (Path.isIdle_iff hname).1 hne
  rw [walk?, if_neg (not_not_intro hplace), if_neg hidle, if_neg hname.2.1]

theorem eq_of_walk? (hsteps : ∀ s ∈ steps, Path.IsPlain s) (h : t.walk? place steps = some names) :
    names = place ++ Path.named steps := by
  induction steps generalizing place with
  | nil =>
    cases h
    exact (List.append_nil _).symm
  | cons step r ih =>
    obtain ⟨hstep, hr⟩ := List.forall_mem_cons.1 hsteps
    by_cases hplace : t.find? place = some .directory
    · by_cases hempty : step = ""
      · subst hempty
        rw [walk?_empty_cons hplace] at h
        exact ih hr h
      · rw [walk?_name_cons hplace hstep hempty] at h
        rw [ih hr h, List.append_assoc]
        simp [Path.named, hempty]
    · rw [walk?_eq_none hplace (List.cons_ne_nil _ _)] at h
      cases h

/-- the last name is looked up only if there is a directory at every place before it -/
theorem walk?_concat_eq_some_iff (hsteps : ∀ s ∈ steps, Path.IsPlain s) (hname : Path.IsPlain name) (hne : name ≠ "")
    (hplace : t.HasDirectory place) :
    t.walk? place (steps ++ [name]) = some names ↔
      t.HasDirectory (place ++ Path.named steps) ∧ place ++ Path.named steps ++ [name] = names := by
  induction steps generalizing place with
  | nil =>
    rw [List.nil_append, walk?_name_cons (hplace place List.prefix_rfl) hname hne]
    simp [walk?, Path.named, hplace]
  | cons step r ih =>
    obtain ⟨hstep, hr⟩ := List.forall_mem_cons.1 hsteps
    have hhere : t.find? place = some .directory := hplace place List.prefix_rfl
    by_cases hempty : step = ""
    · subst hempty
      rw [List.cons_append, walk?_empty_cons hhere]
      exact ih hr hplace
    · have hnamed : place ++ Path.named (step :: r) = place ++ [step] ++ Path.named r := by simp [Path.named, hempty]
      rw [List.cons_append, walk?_name_cons hhere hstep hempty, hnamed]
      by_cases hnext : t.find? (place ++ [step]) = some .directory
      · exact ih hr (hasDirectory_concat hplace hnext)
      · rw [walk?_eq_none hnext (by simp)]
        refine iff_of_false (by simp) fun h => hnext ?_
        exact h.1 _ (List.prefix_append _ _)

variable {path : String}

/-- a path that goes through some names leads to them or nowhere -/
theorem eq_of_locate? {working : List String} {place : List String} (h : Path.Spells path names)
    (hplace : t.locate? working path = some place) : place = names := by
  unfold locate? at hplace
  split at hplace
  · cases hplace
  · rw [if_pos h.absolute] at hplace
    rw [eq_of_walk? (Path.isPlain_of_spells h) hplace, List.nil_append, h.named]

/-- a file in a directory is found by its path exactly if the directory is there -/
theorem locate?_join (working : List String) (h : Path.Spells path names) (hname : Path.IsPlain name) (hne : name ≠ "")
    {place : List String} :
    t.locate? working (Path.join path name) = some place ↔ t.HasDirectory names ∧ names ++ [name] = place := by
  obtain ⟨segments, hpieces, hsub, hnamed⟩ := Path.exists_pieces_join path hname.2.2
  have habsolute := Path.head?_join h.absolute name
  have hjoin : Path.join path name ≠ "" := by
    intro heq
    rw [heq] at habsolute
    cases habsolute
  have hplain : ∀ s ∈ segments, Path.IsPlain s := fun s hs => Path.isPlain_of_spells h s (hsub hs)
  unfold locate?
  rw [if_neg hjoin, if_pos habsolute, hpieces, walk?_concat_eq_some_iff hplain hname hne (hasDirectory_nil t),
    List.nil_append, hnamed, h.named]

theorem isFile_iff {working : List String} :
    t.isFile working path = true ↔ ∃ place f, t.locate? working path = some place ∧
      t.find? place = some (.file f) := by
  unfold isFile at?
  cases t.locate? working path with
  | none => simp
  | some place =>
    simp only [Option.bind_eq_bind, Option.bind_some, Option.some.injEq, exists_and_left, exists_eq_left']
    split <;> simp_all

theorem isFile_join (working : List String) (h : Path.Spells path names) (hname : Path.IsPlain name) (hne : name ≠ "") :
    t.isFile working (Path.join path name) = true ↔ ∃ f, t.Holds names name f := by
  rw [isFile_iff]
  constructor
  · rintro ⟨place, f, hplace, hfile⟩
    obtain ⟨hdirectory, rfl⟩ := (locate?_join working h hname hne).1 hplace
    exact ⟨f, hdirectory, hfile⟩
  · rintro ⟨f, hdirectory, hfile⟩
    exact ⟨_, f, (locate?_join working h hname hne).2 ⟨hdirectory, rfl⟩, hfile⟩

theorem read?_join (working : List String) (h : Path.Spells path names) (hname : Path.IsPlain name) (hne : name ≠ "")
    (hfile : t.Holds names name f) : t.read? working (Path.join path name) = f.read? := by
  unfold read? at?
  rw [(locate?_join working h hname hne).2 ⟨hfile.reached, rfl⟩]
  simp only [Option.bind_eq_bind, Option.bind_some, hfile.file]

/-! ### The innermost directory with a file -/

/-- where a search from some names starts: a regular file stands for its directory -/
def seat (t : FileTree) (names : List String) : List String :=
  match t.find? names with
  | some (.file _) => names.dropLast
  | _ => names

/-- of a directory and those around it, the innermost that has a regular file of a name -/
structure Innermost (t : FileTree) (names : List String) (name : String) (directory : List String) (f : File) :
    Prop where
  around : directory <+: names
  holds : t.Holds directory name f
  /-- every other one with such a file is further out -/
  first : ∀ outer f, outer <+: names → t.Holds outer name f → outer <+: directory

theorem seat_prefix (t : FileTree) (names : List String) : t.seat names <+: names := by
  unfold seat
  split
  · exact List.dropLast_prefix names
  · exact List.prefix_rfl

/-- nothing is in a regular file, so that starting at its directory misses nothing -/
theorem prefix_seat_iff (h : t.Holds directory name f) : directory <+: t.seat names ↔ directory <+: names := by
  refine ⟨fun hseat => hseat.trans (t.seat_prefix names), fun hnames => ?_⟩
  unfold seat
  split
  next file hfile =>
    have hne : directory ≠ names := by
      rintro rfl
      rw [h.reached directory List.prefix_rfl] at hfile
      cases hfile
    rcases List.eq_nil_or_concat' names with rfl | ⟨outer, last, rfl⟩
    · simpa using hnames
    · rw [List.dropLast_concat]
      exact (List.prefix_concat_iff.1 hnames).resolve_left hne
  next => exact hnames

theorem Innermost.seat_iff :
    t.Innermost (t.seat names) name directory f ↔ t.Innermost names name directory f := by
  constructor
  · intro h
    exact ⟨h.around.trans (t.seat_prefix names), h.holds,
      fun outer _ houter hholds => h.first outer _ ((prefix_seat_iff hholds).2 houter) hholds⟩
  · intro h
    exact ⟨(prefix_seat_iff h.holds).2 h.around, h.holds,
      fun outer _ houter hholds => h.first outer _ (houter.trans (t.seat_prefix names)) hholds⟩

theorem Innermost.unique {directory' : List String} {f' : File} (h : t.Innermost names name directory f)
    (h' : t.Innermost names name directory' f') : directory' = directory ∧ f' = f := by
  have hsame : directory' = directory :=
    (h.first _ _ h'.around h'.holds).eq_of_length_le (h'.first _ _ h.around h.holds).length_le
  subst hsame
  exact ⟨rfl, h'.holds.file_eq h.holds⟩

/-- what a search through a directory and those around it comes to -/
inductive Nearest (t : FileTree) (names : List String) (name : String) : Option String → Prop where
  | found {path : String} {directory : List String} {f : File}
    (spells : Path.Spells path directory) (innermost : t.Innermost names name directory f) :
    Nearest t names name (some (Path.join path name))
  | missing (unheld : ∀ outer f, outer <+: names → ¬ t.Holds outer name f) : Nearest t names name none

/-- one name further in changes the answer only if the file is there -/
theorem Nearest.concat {last : String} {answer : Option String} (h : t.Nearest names name answer)
    (hlast : ∀ f, ¬ t.Holds (names ++ [last]) name f) : t.Nearest (names ++ [last]) name answer := by
  cases h with
  | found spells innermost =>
    refine .found spells ⟨innermost.around.trans (List.prefix_append _ _), innermost.holds, ?_⟩
    intro outer f houter hholds
    rcases List.prefix_concat_iff.1 houter with rfl | hshorter
    · exact absurd hholds (hlast f)
    · exact innermost.first outer f hshorter hholds
  | missing unheld =>
    refine .missing fun outer f houter hholds => ?_
    rcases List.prefix_concat_iff.1 houter with rfl | hshorter
    · exact hlast f hholds
    · exact unheld outer f hshorter hholds

/-- the first path that leads to a file is in the innermost directory that has one -/
theorem find?_candidates (working : List String) (hname : Path.IsPlain name) (hne : name ≠ "") {paths : List String}
    (h : List.Forall₂ Path.Spells paths (Path.upwards names)) :
    t.Nearest names name ((paths.map fun path => Path.join path name).find? (t.isFile working)) := by
  have hhere : ∀ {path : String} {names : List String} {f : File}, Path.Spells path names →
      t.Holds names name f → t.Nearest names name (some (Path.join path name)) :=
    fun spells hholds => .found spells ⟨List.prefix_rfl, hholds, fun _ _ houter _ => houter⟩
  induction names using List.reverseRecOn generalizing paths with
  | nil =>
    obtain ⟨path, rest, hspells, hrest, rfl⟩ := List.forall₂_cons_right_iff.1 h
    cases hrest
    rw [List.map_singleton, List.find?_singleton]
    split
    next hfile =>
      obtain ⟨f, hholds⟩ := (isFile_join working hspells hname hne).1 hfile
      exact hhere hspells hholds
    next hfile =>
      refine .missing fun outer f houter hholds => hfile ?_
      rw [List.prefix_nil.1 houter] at hholds
      exact (isFile_join working hspells hname hne).2 ⟨f, hholds⟩
  | append_singleton outer last ih =>
    rw [Path.upwards_concat] at h
    obtain ⟨path, rest, hspells, hrest, rfl⟩ := List.forall₂_cons_right_iff.1 h
    rw [List.map_cons]
    by_cases hfile : t.isFile working (Path.join path name) = true
    · obtain ⟨f, hholds⟩ := (isFile_join working hspells hname hne).1 hfile
      rw [List.find?_cons_of_pos hfile]
      exact hhere hspells hholds
    · rw [List.find?_cons_of_neg hfile]
      exact (ih hrest).concat fun f hholds =>
        hfile ((isFile_join working hspells hname hne).2 ⟨f, hholds⟩)

end FileTree

/-! ## Discovery over a tree -/

namespace Discovery

variable {t : FileTree} {working names : List String} {start : String}

theorem run_firstFile (t : FileTree) (working paths : List String) :
    (firstFile (FileTree.access working) paths).run t = (paths.find? (t.isFile working), t) := by
  induction paths with
  | nil => rfl
  | cons path r ih =>
    rw [firstFile, FileTree.run_bind (FileTree.run_isFile t working path)]
    by_cases hfile : t.isFile working path = true
    · rw [List.find?_cons_of_pos hfile, if_pos hfile]
      rfl
    · rw [List.find?_cons_of_neg hfile, if_neg hfile]
      exact ih

/-- a start that is a regular file holds nothing, so that leaving it out changes nothing -/
theorem find?_drop_start (hstart : Path.Spells start names) (hfile : t.isFile working start = true) :
    (((Path.ancestors start).drop 1).map fun path => Path.join path fileName).find? (t.isFile working) =
      ((Path.ancestors start).map fun path => Path.join path fileName).find? (t.isFile working) := by
  have hmiss : ¬ t.isFile working (Path.join start fileName) = true := by
    intro hinside
    obtain ⟨_, hholds⟩ := (FileTree.isFile_join working hstart Path.isPlain_fileName (by decide)).1 hinside
    obtain ⟨place, f, hplace, hthere⟩ := FileTree.isFile_iff.1 hfile
    rw [FileTree.eq_of_locate? hstart hplace, hholds.reached names List.prefix_rfl] at hthere
    cases hthere
  rw [Path.ancestors, List.map_cons, List.find?_cons_of_neg hmiss]
  rfl

theorem run_nearest (t : FileTree) (working : List String) (start : String) :
    (nearest (FileTree.access working) start).run t =
      (((if t.isFile working start then (Path.ancestors start).drop 1 else Path.ancestors start).map fun path =>
        Path.join path fileName).find? (t.isFile working), t) := by
  rw [nearest, FileTree.run_bind (FileTree.run_isFile t working start), run_firstFile]

/-- from a path that goes through some names the search is a search through them -/
theorem exists_run_nearest (t : FileTree) (working : List String) (hstart : Path.Spells start names) :
    ∃ answer, (nearest (FileTree.access working) start).run t = (answer, t) ∧ t.Nearest names fileName answer := by
  have hsearch := FileTree.find?_candidates (t := t) working Path.isPlain_fileName (by decide)
    (Path.forall₂_ancestors hstart)
  refine ⟨_, ?_, hsearch⟩
  rw [run_nearest]
  split
  next hfile => rw [find?_drop_start hstart hfile]
  next => rfl

/-- what discovery makes of the path that it finds -/
theorem run_discover {answer : Option String} (h : (nearest (FileTree.access working) start).run t = (answer, t)) :
    (discover (FileTree.access working) start).run t =
      (answer.elim (.ok none) fun path =>
        (Layer.ofFile path (t.read? working path)).map fun layer => some (path, layer), t) := by
  rw [discover, FileTree.run_bind h]
  cases answer <;> rfl

/-- discovery only looks -/
theorem exists_run_discover (t : FileTree) (working : List String) (start : String) :
    ∃ result, (discover (FileTree.access working) start).run t = (result, t) :=
  ⟨_, run_discover (run_nearest t working start)⟩

/-- **The nearest file is read.** From an absolute path, seen as the directory of a file if it leads to one, discovery
reads the file in the innermost directory that has one. What that file makes is what it gives: a layer, or a failure.
It gives nothing exactly if no directory on the way to the root has such a file. The tree stays as it is. -/
theorem nearest_read (t : FileTree) (working : List String) (hstart : Path.Spells start names) :
    ∃ result, (discover (FileTree.access working) start).run t = (result, t) ∧
      (∀ directory f, t.Innermost (t.seat names) fileName directory f →
        ∃ path, Path.Spells path (directory ++ [fileName]) ∧
          result = (Layer.ofFile path f.read?).map fun layer => some (path, layer)) ∧
      (result = .ok none ↔ ∀ outer f, outer <+: t.seat names → ¬ t.Holds outer fileName f) := by
  obtain ⟨answer, hrun, hanswer⟩ := exists_run_nearest t working hstart
  refine ⟨_, run_discover hrun, ?_⟩
  cases hanswer with
  | @found path directory f spells innermost =>
    have hread : t.read? working (Path.join path fileName) = f.read? :=
      FileTree.read?_join working spells Path.isPlain_fileName (by decide) innermost.holds
    refine ⟨fun directory' f' h => ?_, iff_of_false ?_ fun hnone => ?_⟩
    · obtain ⟨rfl, rfl⟩ := innermost.unique (FileTree.Innermost.seat_iff.1 h)
      exact ⟨_, Path.spells_join spells Path.isPlain_fileName (by decide), by rw [Option.elim_some, hread]⟩
    · rw [Option.elim_some, hread]
      cases Layer.ofFile (Path.join path fileName) f.read? <;> simp [Except.map]
    · exact hnone directory f ((FileTree.prefix_seat_iff innermost.holds).2 innermost.around) innermost.holds
  | missing unheld =>
    refine ⟨fun directory f h => ?_, iff_of_true rfl fun outer f houter => ?_⟩
    · exact absurd h.holds (unheld _ _ (h.around.trans (t.seat_prefix names)))
    · exact unheld outer f (houter.trans (t.seat_prefix names))

/-- a project inside another one, each with a settings file; the inner one does not parse, and further in a directory
has the name of such a file -/
def nested : FileTree :=
  ({} : FileTree).addFile ["outer", fileName] "tests = true".toUTF8.toList
    |>.addFile ["outer", "inner", fileName] "tests".toUTF8.toList
    |>.addFile ["outer", "inner", "src", "main.go"] []
    |>.makeDirectories ["outer", "inner", "src", fileName]

/-- from a source file two directories further in, the inner file is read and reported; from the directory around the
inner project, the layer of the outer file comes back -/
theorem nearest_read_nested :
    Path.Spells "/outer/inner//src/main.go" ["outer", "inner", "src", "main.go"] ∧
      nested.seat ["outer", "inner", "src", "main.go"] = ["outer", "inner", "src"] ∧
      (∃ path, Path.Spells path ["outer", "inner", fileName] ∧
        (discover (FileTree.access []) "/outer/inner//src/main.go").run nested = (.error (.malformed path), nested)) ∧
      Path.Spells "/outer/" ["outer"] ∧
      ∃ path, Path.Spells path ["outer", fileName] ∧
        (discover (FileTree.access []) "/outer/").run nested = (.ok (some (path, { tests := some true })), nested) := by
  have hinner : Path.Spells "/outer/inner//src/main.go" ["outer", "inner", "src", "main.go"] :=
    ⟨by decide +kernel, by decide +kernel, by decide⟩
  have hseat : nested.seat ["outer", "inner", "src", "main.go"] = ["outer", "inner", "src"] := by decide +kernel
  have houter : Path.Spells "/outer/" ["outer"] := ⟨by decide +kernel, by decide +kernel, by decide⟩
  refine ⟨hinner, hseat, ?_, houter, ?_⟩
  · obtain ⟨result, hrun, hread, -⟩ := nearest_read nested [] hinner
    have hinnermost : nested.Innermost (nested.seat ["outer", "inner", "src", "main.go"]) fileName ["outer", "inner"]
        { contents := "tests".toUTF8.toList } := by
      rw [hseat]
      refine ⟨by decide, ⟨by decide +kernel, by decide +kernel⟩, fun outer f hplace hother => ?_⟩
      rcases List.prefix_concat_iff.1 (show outer <+: ["outer", "inner"] ++ ["src"] from hplace) with rfl | hshorter
      · have hdirectory : nested.find? ["outer", "inner", "src", fileName] = some .directory := by decide +kernel
        cases hdirectory.symm.trans hother.file
      · exact hshorter
    obtain ⟨path, hpath, rfl⟩ := hread _ _ hinnermost
    have hdecoded : String.fromUTF8? ⟨"tests".toUTF8.toList.toArray⟩ = some "tests" := by decide +kernel
    have hparsed : Layer.ofText? "tests" = none := by decide +kernel
    refine ⟨path, hpath, ?_⟩
    rw [hrun, File.read?, if_pos rfl, Layer.ofFile_of_text hdecoded, hparsed]
    rfl
  · obtain ⟨result, hrun, hread, -⟩ := nearest_read nested [] houter
    have hinnermost : nested.Innermost (nested.seat ["outer"]) fileName ["outer"]
        { contents := "tests = true".toUTF8.toList } :=
      ⟨by decide, ⟨by decide +kernel, by decide +kernel⟩, fun outer _ hplace _ => hplace⟩
    obtain ⟨path, hpath, rfl⟩ := hread _ _ hinnermost
    have hdecoded : String.fromUTF8? ⟨"tests = true".toUTF8.toList.toArray⟩ = some "tests = true" := by decide +kernel
    have hparsed : Layer.ofText? "tests = true" = some { tests := some true } := by decide +kernel
    refine ⟨path, hpath, ?_⟩
    rw [hrun, File.read?, if_pos rfl, Layer.ofFile_of_text hdecoded, hparsed]
    rfl

end Discovery

end CallAtlas
