/-
How functions are grouped: by package, by receiver type, by both or not at all.

Dimensions come from option words, read without regard to case and to blanks around them. In a list of words blank ones
are skipped and the first unknown one is the error.
-/
import CallAtlas.Text.Pieces

namespace CallAtlas

/-- one way to group -/
inductive Dimension where
  | package
  | type
  deriving DecidableEq, Repr

/-- the word for a dimension -/
def Dimension.name : Dimension → String
  | .package => "pkg"
  | .type => "type"

/-- the dimension that a word names -/
def Dimension.ofToken? (s : String) : Option Dimension :=
  let word := Text.folded s
  if word = "pkg" || word = "package" then some .package
  else if word = "type" then some .type
  else none

/-- the active dimensions -/
structure Grouping where
  byPackage : Bool := false
  byType : Bool := false
  deriving DecidableEq, Repr

namespace Grouping

/-- a dimension is active -/
def contains (g : Grouping) : Dimension → Bool
  | .package => g.byPackage
  | .type => g.byType

/-- one more active dimension -/
def insert (g : Grouping) : Dimension → Grouping
  | .package => { g with byPackage := true }
  | .type => { g with byType := true }

/-- the active dimensions, packages before types -/
def toList (g : Grouping) : List Dimension :=
  [.package, .type].filter g.contains

/-- the grouping that a list of words asks for, or the first word that names no dimension -/
def ofTokens (tokens : List String) : Except String Grouping :=
  (Text.trimmedEntries tokens).foldlM (fun g token =>
    match Dimension.ofToken? token with
    | some d => .ok (g.insert d)
    | none => .error token) {}

theorem contains_insert (g : Grouping) (d d' : Dimension) :
    (g.insert d).contains d' = (decide (d = d') || g.contains d') := by
  cases d <;> cases d' <;> simp [insert, contains]

theorem mem_toList {g : Grouping} {d : Dimension} : d ∈ g.toList ↔ g.contains d = true := by
  cases d <;> simp [toList]

end Grouping

end CallAtlas
