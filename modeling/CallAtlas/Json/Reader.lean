/-
JSON text read into values.

`parse?` reads one value with nothing but white space around it. The reader is strict: no comments, no commas before a
closing bracket, no control characters inside strings, and an escaped half of a surrogate pair only together with its
other half. Each step takes at least one character, so the length of the text bounds the work.
-/
import CallAtlas.Json.Written
import CallAtlas.Text.Hex

namespace CallAtlas.Json

/-! ## Strings -/

def isHighHalf (n : Nat) : Bool := 0xD800 ≤ n && n ≤ 0xDBFF

def isLowHalf (n : Nat) : Bool := 0xDC00 ≤ n && n ≤ 0xDFFF

/-- the character of an escape after its `u`, and the number of characters it takes -/
def unicodeEscape? (cs : List Char) : Option (Char × Nat) := do
  let n ← Text.natOfHex? 4 cs
  if isHighHalf n then
    match cs.drop 4 with
    | '\\' :: 'u' :: r =>
      let m ← Text.natOfHex? 4 r
      if isLowHalf m then (Text.charOfCode? (0x10000 + (n - 0xD800) * 0x400 + (m - 0xDC00))).map (·, 10) else none
    | _ => none
  else (Text.charOfCode? n).map (·, 4)

/-- the character of an escape after its backslash, and the number of characters it takes -/
def escape? : List Char → Option (Char × Nat)
  | '"' :: _ => some ('"', 1)
  | '\\' :: _ => some ('\\', 1)
  | '/' :: _ => some ('/', 1)
  | 'b' :: _ => some ('\x08', 1)
  | 'f' :: _ => some ('\x0c', 1)
  | 'n' :: _ => some ('\n', 1)
  | 'r' :: _ => some ('\r', 1)
  | 't' :: _ => some ('\t', 1)
  | 'u' :: r => (unicodeEscape? r).map fun (c, width) => (c, width + 1)
  | _ => none

/-- a string after its opening quote, and what follows it -/
def stringBody? : List Char → Option (List Char × List Char)
  | [] => none
  | c :: r =>
    if c = '"' then some ([], r)
    else if c = '\\' then
      match escape? r with
      | some (e, width) => (stringBody? (r.drop width)).map fun (cs, r) => (e :: cs, r)
      | none => none
    else if c.toNat < 0x20 then none
    else (stringBody? r).map fun (cs, r) => (c :: cs, r)
termination_by cs => cs.length
decreasing_by all_goals simp only [List.length_drop, List.length_cons]; omega

/-! ## Numbers -/

/-- digits at the front, at least one, and what follows them -/
def digits? (cs : List Char) : Option (List Char × List Char) :=
  let ds := cs.takeWhile Char.isDigit
  if ds = [] then none else some (ds, cs.dropWhile Char.isDigit)

/-- digits before the point: a zero stands alone -/
def wholePart? (cs : List Char) : Option (List Char × List Char) :=
  match cs with
  | '0' :: r => some (['0'], r)
  | _ => digits? cs

/-- an optional point with digits -/
def fractionPart? (cs : List Char) : Option (List Char × List Char) :=
  match cs with
  | '.' :: r => (digits? r).map fun (ds, r) => ('.' :: ds, r)
  | _ => some ([], cs)

/-- an optional exponent -/
def exponentPart? (cs : List Char) : Option (List Char × List Char) :=
  match cs with
  | c :: r =>
    if c = 'e' || c = 'E' then
      match r with
      | s :: r' =>
        if s = '+' || s = '-' then (digits? r').map fun (ds, r) => (c :: s :: ds, r)
        else (digits? r).map fun (ds, r) => (c :: ds, r)
      | [] => none
    else some ([], cs)
  | [] => some ([], [])

/-- the text of a number at the front, and what follows it -/
def number? (cs : List Char) : Option (String × List Char) := do
  let (sign, r) := match cs with
    | '-' :: r => (['-'], r)
    | _ => ([], cs)
  let (whole, r) ← wholePart? r
  let (fraction, r) ← fractionPart? r
  let (exponent, r) ← exponentPart? r
  some (String.ofList (sign ++ whole ++ fraction ++ exponent), r)

/-! ## Values -/

def isSpace (c : Char) : Bool := c = ' ' || c = '\t' || c = '\n' || c = '\r'

/-- what follows the white space at the front -/
def skip (cs : List Char) : List Char := cs.dropWhile isSpace

mutual

/-- a value at the front, and what follows it -/
def value? : Nat → List Char → Option (Value × List Char)
  | 0, _ => none
  | fuel + 1, cs =>
    match skip cs with
    | '"' :: r => (stringBody? r).map fun (s, r) => (.string (String.ofList s), r)
    | '[' :: r =>
      match skip r with
      | ']' :: r => some (.array [], r)
      | r => (items? fuel r).map fun (vs, r) => (.array vs, r)
    | '\x7b' :: r =>
      match skip r with
      | '\x7d' :: r => some (.object [], r)
      | r => (members? fuel r).map fun (ms, r) => (.object ms, r)
    | 'n' :: 'u' :: 'l' :: 'l' :: r => some (.null, r)
    | 't' :: 'r' :: 'u' :: 'e' :: r => some (.bool true, r)
    | 'f' :: 'a' :: 'l' :: 's' :: 'e' :: r => some (.bool false, r)
    | r => (number? r).map fun (text, r) => (.number text, r)

/-- the items of an array up to its closing bracket -/
def items? : Nat → List Char → Option (List Value × List Char)
  | 0, _ => none
  | fuel + 1, cs =>
    match value? fuel cs with
    | none => none
    | some (v, r) =>
      match skip r with
      | ']' :: r => some ([v], r)
      | ',' :: r => (items? fuel r).map fun (vs, r) => (v :: vs, r)
      | _ => none

/-- the members of an object up to its closing brace -/
def members? : Nat → List Char → Option (List (String × Value) × List Char)
  | 0, _ => none
  | fuel + 1, cs =>
    match skip cs with
    | '"' :: r =>
      match stringBody? r with
      | none => none
      | some (name, r) =>
        match skip r with
        | ':' :: r =>
          match value? fuel r with
          | none => none
          | some (v, r) =>
            match skip r with
            | '\x7d' :: r => some ([(String.ofList name, v)], r)
            | ',' :: r => (members? fuel r).map fun (ms, r) => ((String.ofList name, v) :: ms, r)
            | _ => none
        | _ => none
    | _ => none

end

/-- the value that a text holds -/
def parse? (s : String) : Option Value :=
  match value? (s.length + 1) s.toList with
  | some (v, r) => if skip r = [] then some v else none
  | none => none

end CallAtlas.Json
