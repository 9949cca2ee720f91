/-
Characters written as hexadecimal numbers.

`natOfHex?` reads digits of either case, and `charOfCode?` gives the character with a code point; the halves of
surrogate pairs and numbers beyond the last code point are no characters. `escapedCodePoint` writes a code point where
the character itself would not show.
-/

namespace CallAtlas.Text

/-- the value of a hexadecimal digit -/
def hexDigit? (c : Char) : Option Nat :=
  if c.isDigit then some (c.toNat - '0'.toNat)
  else if 'a' ≤ c && c ≤ 'f' then some (c.toNat - 'a'.toNat + 10)
  else if 'A' ≤ c && c ≤ 'F' then some (c.toNat - 'A'.toNat + 10)
  else none

/-- the value of the first `width` characters, if they are all digits -/
def natOfHex? (width : Nat) (cs : List Char) : Option Nat := do
  if cs.length < width then none
  let digits ← (cs.take width).mapM hexDigit?
  some (digits.foldl (fun n d => 16 * n + d) 0)

/-- the character with a code point -/
def charOfCode? (n : Nat) : Option Char :=
  if h : n.isValidChar then some (Char.ofNatAux n h) else none

/-- a code point in braces, in hexadecimal -/
def escapedCodePoint (c : Char) : List Char :=
  "\\u\x7b".toList ++ Nat.toDigits 16 c.toNat ++ "\x7d".toList

end CallAtlas.Text
