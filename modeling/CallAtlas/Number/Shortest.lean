/-
The fewest digits that name a number.

A finite number other than zero has many decimals that are read as it. `shortest` gives one with the fewest digits and,
of those, the nearest to the number: it walks the grids of one, two and more digits and looks at the two neighbours of
the number on each. A grid offers only what is read as the number that it was made for.
-/
import CallAtlas.Number.Binary64

namespace CallAtlas.Binary64

/-! ## Places -/

/-- m · 2^e as a quotient -/
def ratio (m : Nat) (e : Int) : Nat × Nat :=
  (m * Nat.pow 2 e.toNat, Nat.pow 2 (-e).toNat)

/-- a quotient lies below a power of ten -/
def belowPower (r : Nat × Nat) (k : Int) : Bool :=
  r.1 * Nat.pow 10 (-k).toNat < r.2 * Nat.pow 10 k.toNat

/-- the least power of ten above m · 2^e, to be sought around the place its binary length gives -/
def placeAbove (m : Nat) (e : Int) : Int :=
  let guess : Int := ((m.log2 + e) * 30103) / 100000 - 1
  match (List.range 5).find? fun (i : Nat) => belowPower (ratio m e) (guess + i) with
  | some i => guess + i
  | none => guess + 5

/-! ## Grids -/

/-- two neighbours of a quotient on the grid 10^g, the lower one and its successor -/
def lowerNeighbour (r : Nat × Nat) (g : Int) : Nat :=
  (r.1 * Nat.pow 10 (-g).toNat) / (r.2 * Nat.pow 10 g.toNat)

/-- the upper neighbour is the nearer one; with `tieUp` also when both are equally near, else only if it is even -/
def prefersUpper (tieUp : Bool) (r : Nat × Nat) (g : Int) (lower : Nat) : Bool :=
  let twice := 2 * (r.1 * Nat.pow 10 (-g).toNat)
  let middle := (2 * lower + 1) * (r.2 * Nat.pow 10 g.toNat)
  twice > middle || (twice == middle && (tieUp || lower % 2 == 1))

/-- a decimal is read as the number m · 2^e -/
def reads (m : Nat) (e : Int) (d : Decimal) : Bool :=
  ofDecimal false d == .finite false m e

/-- the better of the two neighbours on a grid that is read as the number -/
def onGrid (tieUp : Bool) (m : Nat) (e : Int) (g : Int) : Option Decimal :=
  let lower := lowerNeighbour (ratio m e) g
  let low : Decimal := ⟨lower, g⟩
  let high : Decimal := ⟨lower + 1, g⟩
  let choice := if prefersUpper tieUp (ratio m e) g lower then [high, low] else [low, high]
  choice.find? (reads m e)

/-- the exact decimal of m · 2^e -/
def exactDecimal (m : Nat) (e : Int) : Decimal :=
  ⟨m * Nat.pow 2 e.toNat * Nat.pow 5 (-e).toNat, -(-e).toNat⟩

/-- a decimal without zeros at its end, as many as `limit` of them dropped -/
def dropZeros : Nat → Decimal → Decimal
  | 0, d => d
  | limit + 1, d => if d.digits ≠ 0 && d.digits % 10 == 0 then dropZeros limit ⟨d.digits / 10, d.exponent + 1⟩ else d

/-- digits that always suffice -/
def mostDigits : Nat := 17

/-- the decimal of m · 2^e with the fewest digits, zeros at the end included -/
def shortestOnGrids (tieUp : Bool) (m : Nat) (e : Int) : Decimal :=
  let place := placeAbove m e
  match (List.range mostDigits).findSome? fun (n : Nat) => onGrid tieUp m e (place - (n + 1 : Nat)) with
  | some d => d
  | none => exactDecimal m e

/-- the decimal of m · 2^e with the fewest digits -/
def shortest (tieUp : Bool) (m : Nat) (e : Int) : Decimal :=
  dropZeros (mostDigits + 1) (shortestOnGrids tieUp m e)

end CallAtlas.Binary64
