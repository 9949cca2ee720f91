/-
Which packages are shown.

A `Filter` keeps or drops a package by its import path alone: packages of the toolchain go first if they are to be
omitted, then whatever is outside the `limit` prefixes (an empty list lets everything through), and last whatever is
under an `ignore` prefix, which always wins.
-/
import CallAtlas.PathPrefix
import CallAtlas.Program

namespace CallAtlas

/-- what to show -/
structure Filter where
  /-- drop packages of the toolchain -/
  omitStd : Bool := false
  /-- only packages under these prefixes; empty is no limit -/
  limit : List String := []
  /-- no packages under these prefixes -/
  ignore : List String := []
  deriving DecidableEq, Repr

namespace Filter

/-- whether a path is kept, given the program's own modules and the libraries -/
def keepsPath (filter : Filter) (own libraries : List String) (path : String) : Bool :=
  if filter.omitStd && isStandardLibrary path own && !hasAnyPrefix path libraries then false
  else if filter.limit ≠ [] && !hasAnyPrefix path filter.limit then false
  else !hasAnyPrefix path filter.ignore

/-- no kept path is under an ignored prefix -/
theorem not_ignored_of_keepsPath {filter : Filter} {own libraries : List String} {path : String}
    (h : filter.keepsPath own libraries path = true) : hasAnyPrefix path filter.ignore = false := by
  unfold keepsPath at h
  split at h
  · cases h
  · split at h
    · cases h
    · simpa using h

/-- the filter without settings keeps every path -/
theorem keepsPath_default (own libraries : List String) (path : String) :
    Filter.keepsPath {} own libraries path = true := by
  simp [keepsPath, hasAnyPrefix]

/-- without prefixes a path is dropped only if it is one segment and neither an own module nor a library -/
theorem keepsPath_iff {filter : Filter} {own libraries : List String} {path : String} (hlimit : filter.limit = [])
    (hignore : filter.ignore = []) :
    filter.keepsPath own libraries path = true ↔
      filter.omitStd = false ∨ '/' ∈ path.toList ∨ path ∈ own ∨ path ∈ libraries := by
  have hkeeps : filter.keepsPath own libraries path =
      !(filter.omitStd && isStandardLibrary path own && !hasAnyPrefix path libraries) := by
    have hnone : hasAnyPrefix path [] = false := rfl
    unfold keepsPath
    rw [hlimit, hignore, hnone]
    simp
  rw [hkeeps]
  by_cases hslash : '/' ∈ path.toList
  · simp [isStandardLibrary, hslash]
  · simp [isStandardLibrary, hslash, ← hasAnyPrefix_iff_mem hslash, or_assoc]

end Filter

namespace Program

/-- whether a function is kept, by the package in which it is defined -/
def keeps? (p : Program) (filter : Filter) (f : FunctionId) : Option Bool :=
  (p.packageOf? f).map fun k => filter.keepsPath p.ownModules p.libraryModules k.path

/-- a call is kept when both its ends are -/
def keepsCall? (p : Program) (filter : Filter) (c : Call) : Option Bool := do
  if ← p.keeps? filter c.caller then p.keeps? filter c.callee else some false

end Program

end CallAtlas
