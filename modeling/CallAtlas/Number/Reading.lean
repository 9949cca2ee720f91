/-
Numbers read from text.

`Decimal.ofChars?` reads digits with an optional point and an optional exponent, at least one digit before the exponent.
`Binary64.ofText?` adds a sign and the words for the infinities and for what is not a number, in any case of letters.
-/
import CallAtlas.Number.Binary64

namespace CallAtlas

/-- the value of decimal digits, the first one the most significant -/
def natOfDigits (cs : List Char) : Nat :=
  cs.foldl (fun n c => 10 * n + (c.toNat - '0'.toNat)) 0

/-- a natural written in decimal digits, at least one -/
def natOfChars? (cs : List Char) : Option Nat :=
  if cs ≠ [] && cs.all Char.isDigit then some (natOfDigits cs) else none

/-- a sign, if there is one, and what follows it -/
def takeSign : List Char → Bool × List Char
  | '-' :: r => (true, r)
  | '+' :: r => (false, r)
  | r => (false, r)

/-- an integer with an optional sign -/
def intOfChars? (cs : List Char) : Option Int :=
  let (negative, r) := takeSign cs
  (natOfChars? r).map fun n => if negative then -(n : Int) else n

namespace Decimal

/-- digits before and after the point, and what follows them -/
def mantissaOfChars (cs : List Char) : List Char × List Char × List Char :=
  let whole := cs.takeWhile Char.isDigit
  match cs.dropWhile Char.isDigit with
  | '.' :: r => (whole, r.takeWhile Char.isDigit, r.dropWhile Char.isDigit)
  | r => (whole, [], r)

/-- a decimal without a sign -/
def ofChars? (cs : List Char) : Option Decimal :=
  let (whole, fraction, r) := mantissaOfChars cs
  if whole = [] && fraction = [] then none
  else
    let decimal (exponent : Int) : Decimal := ⟨natOfDigits (whole ++ fraction), exponent - fraction.length⟩
    match r with
    | [] => some (decimal 0)
    | c :: r => if c = 'e' || c = 'E' then (intOfChars? r).map decimal else none

end Decimal

namespace Binary64

/-- the words for what has no digits -/
def ofWord? (negative : Bool) (cs : List Char) : Option Binary64 :=
  let word := String.ofList (cs.map Char.toLower)
  if word = "inf" || word = "infinity" then some (.infinity negative)
  else if word = "nan" then some .nan
  else none

/-- a number with an optional sign -/
def ofChars? (cs : List Char) : Option Binary64 :=
  let (negative, r) := takeSign cs
  match ofWord? negative r with
  | some x => some x
  | none => (Decimal.ofChars? r).map (ofDecimal negative)

/-- a number read from a text -/
def ofText? (s : String) : Option Binary64 :=
  ofChars? s.toList

end Binary64

end CallAtlas
