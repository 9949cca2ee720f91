/-
Binary floating-point numbers of double precision, as exact values.

A number is not a number, an infinity, or a sign with m · 2^e where m has at most 53 bits. `ofRatio` rounds a quotient
of naturals to the nearest such number, a half going to the even mantissa; decimals and integers are quotients, so
they need no rounding of their own. All arithmetic is on `Nat` and `Int`, and equality is decidable.
-/

namespace CallAtlas

/-- a double precision number -/
inductive Binary64 where
  | nan
  | infinity (negative : Bool)
  | finite (negative : Bool) (mantissa : Nat) (exponent : Int)
  deriving DecidableEq, Repr

/-- digits · 10^exponent -/
structure Decimal where
  digits : Nat
  exponent : Int
  deriving DecidableEq, Repr

namespace Binary64

/-! ## Rounding -/

/-- the natural nearest to a quotient, a half going to the even one -/
def roundDiv (num den : Nat) : Nat :=
  let q := num / den
  let r := num % den
  if 2 * r > den || (2 * r == den && q % 2 == 1) then q + 1 else q

/-- the least exponent of a mantissa -/
def leastExponent : Int := -1074

/-- the greatest exponent of a mantissa -/
def greatestExponent : Int := 971

/-- the exponent at which a quotient has a mantissa of 53 bits, or the least one -/
def exponentFor (num den : Nat) : Int :=
  let e : Int := (num.log2 : Int) - den.log2 - 52
  let reached := Nat.pow 2 52 * (den * Nat.pow 2 e.toNat) ≤ num * Nat.pow 2 (-e).toNat
  max (if reached then e else e - 1) leastExponent

/-- the number nearest to a quotient of naturals -/
def ofRatio (negative : Bool) (num den : Nat) : Binary64 :=
  if num = 0 then .finite negative 0 leastExponent
  else
    let e := exponentFor num den
    let m := roundDiv (num * Nat.pow 2 (-e).toNat) (den * Nat.pow 2 e.toNat)
    let (m, e) := if m = Nat.pow 2 53 then (Nat.pow 2 52, e + 1) else (m, e)
    if e > greatestExponent then .infinity negative else .finite negative m e

/-- a place of the first digit beyond which a decimal is out of range or rounds to zero -/
def farPlace : Int := 400

/-- the number nearest to a decimal -/
def ofDecimal (negative : Bool) (d : Decimal) : Binary64 :=
  let place : Int := (Nat.toDigits 10 d.digits).length + d.exponent
  if d.digits = 0 || place < -farPlace then .finite negative 0 leastExponent
  else if place > farPlace then .infinity negative
  else ofRatio negative (d.digits * Nat.pow 10 d.exponent.toNat) (Nat.pow 10 (-d.exponent).toNat)

/-- the number nearest to an integer -/
def ofInt (n : Int) : Binary64 :=
  ofRatio (n < 0) n.natAbs 1

/-! ## Tests -/

/-- a finite number above zero -/
def isPositive : Binary64 → Bool
  | .finite false m _ => m ≠ 0
  | _ => false

end Binary64

end CallAtlas
