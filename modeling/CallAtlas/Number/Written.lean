/-
Numbers written in decimal.

A `Style` holds the decisions of a format: which of two equally near decimals is taken, whether a whole number keeps its
point, and which numbers are written with an exponent. `plain` is the style of messages and drawings: always positional,
no point on whole numbers.
-/
import CallAtlas.Number.Shortest

namespace CallAtlas.Binary64

/-- decisions of a format -/
structure Style where
  /-- of two equally near decimals the greater one is taken, else the even one -/
  tieUp : Bool
  /-- whole numbers end in a point and a zero -/
  keepPoint : Bool
  /-- places of the point between which a number is written without an exponent, ends included; `none` is everywhere -/
  positional : Option (Int × Int)

/-- positional everywhere, whole numbers without a point -/
def plain : Style := ⟨true, false, none⟩

/-- digits with the point after `place` of them, without an exponent -/
def positionalChars (keepPoint : Bool) (ds : List Char) (place : Int) : List Char :=
  if place ≤ 0 then "0.".toList ++ List.replicate (-place).toNat '0' ++ ds
  else if ds.length ≤ place then
    ds ++ List.replicate (place - ds.length).toNat '0' ++ (if keepPoint then ".0".toList else [])
  else ds.take place.toNat ++ '.' :: ds.drop place.toNat

/-- one digit before the point, and an exponent with its sign -/
def exponentChars (ds : List Char) (place : Int) : List Char :=
  let tail := ds.drop 1
  let exponent := place - 1
  ds.take 1 ++ (if tail = [] then [] else '.' :: tail) ++ 'e' :: (if exponent < 0 then '-' else '+')
    :: Nat.toDigits 10 exponent.natAbs

/-- whether a style writes a number with its point at `place` without an exponent -/
def Style.isPositional (style : Style) (place : Int) : Bool :=
  match style.positional with
  | none => true
  | some (low, high) => low ≤ place && place ≤ high

/-- a finite number without its sign -/
def magnitudeChars (style : Style) (m : Nat) (e : Int) : List Char :=
  if m = 0 then if style.keepPoint then "0.0".toList else ['0']
  else
    let d := shortest style.tieUp m e
    let ds := Nat.toDigits 10 d.digits
    let place : Int := ds.length + d.exponent
    if style.isPositional place then positionalChars style.keepPoint ds place else exponentChars ds place

/-- a number in a style -/
def written (style : Style) : Binary64 → String
  | .nan => "NaN"
  | .infinity negative => if negative then "-inf" else "inf"
  | .finite negative m e => String.ofList ((if negative then ['-'] else []) ++ magnitudeChars style m e)

end CallAtlas.Binary64
