/-
Flat configuration text in TOML.

A flat document is a list of lines `key = value` with strings, integers, numbers, booleans and arrays of strings as
values; blank lines and comments stand anywhere between. `entries?` reads one and gives its keys and values in order.
Tables, inline tables, dotted keys, dates and other arrays are no flat text, and neither is a document in which a key
comes twice: all of these are refused.

All four kinds of string are read: quoted and literal ones, each on one line or, between three quotes, on several.
-/
import CallAtlas.Number.Reading
import CallAtlas.Text.Hex

namespace CallAtlas.Toml

/-- a value of a flat document -/
inductive Value where
  | text (s : String)
  | integer (n : Int)
  | number (x : Binary64)
  | flag (b : Bool)
  | texts (xs : List String)
  deriving DecidableEq, Repr

/-! ## Characters -/

/-- a blank inside a line -/
def isGap (c : Char) : Bool := c = ' ' || c = '\t'

/-- a character allowed in comments and strings: no control but the tab -/
def isPlain (c : Char) : Bool := c = '\t' || (0x20 ≤ c.toNat && c.toNat ≠ 0x7F)

/-- a character of a key without quotes -/
def isBareKeyChar (c : Char) : Bool := c.isAlphanum || c = '_' || c = '-'

/-- what follows a line break, if there is one -/
def afterBreak? : List Char → Option (List Char)
  | '\n' :: r => some r
  | '\r' :: '\n' :: r => some r
  | _ => none

/-- what follows the end of a line: blanks, perhaps a comment, and a line break or the end of the text -/
def afterLine? (cs : List Char) : Option (List Char) :=
  let cs := cs.dropWhile isGap
  let cs := if cs.head? = some '#' then cs.dropWhile isPlain else cs
  if cs = [] then some [] else afterBreak? cs

/-- what follows blanks, comments and line breaks inside an array -/
def afterGaps? (inComment : Bool) : List Char → Option (List Char)
  | [] => some []
  | '\r' :: '\n' :: r => afterGaps? false r
  | c :: r =>
    if c = '\n' then afterGaps? false r
    else if inComment then if isPlain c then afterGaps? true r else none
    else if isGap c then afterGaps? false r
    else if c = '#' then afterGaps? true r
    else some (c :: r)

/-- what follows blanks and line breaks -/
def afterBreaks : List Char → List Char
  | '\r' :: '\n' :: r => afterBreaks r
  | c :: r => if isGap c || c = '\n' then afterBreaks r else c :: r
  | [] => []

theorem length_afterBreaks_le (cs : List Char) : (afterBreaks cs).length ≤ cs.length := by
  fun_induction afterBreaks cs <;> simp_all <;> omega

/-! ## Strings -/

/-- the character that an escape after its backslash stands for, and the number of characters it takes -/
def escape? : List Char → Option (Char × Nat)
  | 'b' :: _ => some ('\x08', 1)
  | 't' :: _ => some ('\t', 1)
  | 'n' :: _ => some ('\n', 1)
  | 'f' :: _ => some ('\x0c', 1)
  | 'r' :: _ => some ('\r', 1)
  | '"' :: _ => some ('"', 1)
  | '\\' :: _ => some ('\\', 1)
  | 'u' :: r => ((Text.natOfHex? 4 r).bind Text.charOfCode?).map (·, 5)
  | 'U' :: r => ((Text.natOfHex? 8 r).bind Text.charOfCode?).map (·, 9)
  | _ => none

/-- text, and what follows it -/
abbrev Scanned := Option (List Char × List Char)

/-- characters in front of scanned text -/
def Scanned.after (front : List Char) (s : Scanned) : Scanned :=
  s.map fun (cs, r) => (front ++ cs, r)

/-- a quoted string after its opening quote -/
def quotedBody : List Char → Scanned
  | [] => none
  | c :: r =>
    if c = '"' then some ([], r)
    else if c = '\\' then
      match escape? r with
      | some (e, width) => (quotedBody (r.drop width)).after [e]
      | none => none
    else if isPlain c then (quotedBody r).after [c]
    else none
termination_by cs => cs.length
decreasing_by all_goals simp only [List.length_drop, List.length_cons]; omega

/-- a literal string after its opening quote -/
def literalBody (cs : List Char) : Scanned :=
  let inside := cs.takeWhile fun c => isPlain c && c ≠ '\''
  match cs.drop inside.length with
  | '\'' :: r => some (inside, r)
  | _ => none

/-- the number of quotes at the front -/
def quoteRun (quote : Char) (cs : List Char) : Nat :=
  (cs.takeWhile (· = quote)).length

/-- a string between three quotes after its first line break; up to two quotes in a row belong to the text, also in front
of the closing ones -/
def longBody (quote : Char) (escapes : Bool) : List Char → Scanned
  | [] => none
  | c :: r =>
    let run := quoteRun quote (c :: r)
    if c = quote then
      if run ≤ 2 then (longBody quote escapes (r.drop (run - 1))).after (List.replicate run quote)
      else if run ≤ 5 then some (List.replicate (run - 3) quote, r.drop (run - 1))
      else none
    else if escapes && c = '\\' then
      match afterBreak? (r.dropWhile isGap) with
      | some _ => longBody quote escapes (afterBreaks r)
      | none =>
        match escape? r with
        | some (e, width) => (longBody quote escapes (r.drop width)).after [e]
        | none => none
    else
      match afterBreak? (c :: r) with
      | some _ => (longBody quote escapes (r.drop (if c = '\n' then 0 else 1))).after ['\n']
      | none => if isPlain c then (longBody quote escapes r).after [c] else none
termination_by cs => cs.length
decreasing_by
  all_goals
    have := length_afterBreaks_le r
    simp only [List.length_drop, List.length_cons]
    omega

/-- a string on several lines after its opening quotes -/
def longString (quote : Char) (escapes : Bool) (cs : List Char) : Scanned :=
  longBody quote escapes ((afterBreak? cs).getD cs)

/-- a string of any kind -/
def string? (cs : List Char) : Option (String × List Char) :=
  let scanned :=
    match cs with
    | '"' :: '"' :: '"' :: r => longString '"' true r
    | '\'' :: '\'' :: '\'' :: r => longString '\'' false r
    | '"' :: r => quotedBody r
    | '\'' :: r => literalBody r
    | _ => none
  scanned.map fun (s, r) => (String.ofList s, r)

/-! ## Numbers and booleans -/

/-- a character of a number or a word -/
def isAtomChar (c : Char) : Bool := c.isAlphanum || c = '_' || c = '+' || c = '-' || c = '.'

/-- digits without the underscores between them; an underscore stands between two digits -/
def ungrouped? (isDigit : Char → Bool) (cs : List Char) : Option (List Char) :=
  let groups := cs.splitOn '_'
  if groups.all fun g => g ≠ [] && g.all isDigit then some groups.flatten else none

/-- an integer in the range of 64 bits -/
def integer64? (n : Int) : Option Value :=
  if -9223372036854775808 ≤ n && n < 9223372036854775808 then some (.integer n) else none

/-- digits after the mark of a base -/
def based? (base : Nat) (cs : List Char) : Option Value := do
  let digits ← ungrouped? (fun c => (Text.hexDigit? c).any (· < base)) cs
  integer64? (digits.foldl (fun n c => base * n + (Text.hexDigit? c).getD 0) 0)

/-- a number that is not beyond the greatest one; below the least one it is infinite -/
def number? (negative : Bool) (digits : List Char) (places : Nat) (exponent : Int) : Option Value :=
  let x := Binary64.ofDecimal negative ⟨natOfDigits digits, exponent - places⟩
  if x = .infinity false then none else some (.number x)

/-- the exponent after its mark -/
def exponent? (cs : List Char) : Option Int := do
  let (negative, r) := takeSign cs
  let digits ← ungrouped? Char.isDigit r
  let n : Int := natOfDigits digits
  some (if negative then -n else n)

def isExponentMark (c : Char) : Bool := c = 'e' || c = 'E'

/-- a decimal integer or number -/
def decimal? (cs : List Char) : Option Value := do
  let (negative, r) := takeSign cs
  if r = "inf".toList then return .number (.infinity negative)
  if r = "nan".toList then return .number .nan
  let isPart (c : Char) : Bool := c.isDigit || c = '_'
  let whole ← ungrouped? Char.isDigit (r.takeWhile isPart)
  if whole.length > 1 && whole.head? = some '0' then none
  match r.dropWhile isPart with
  | [] => integer64? (if negative then -(natOfDigits whole : Int) else natOfDigits whole)
  | '.' :: r =>
    let fraction ← ungrouped? Char.isDigit (r.takeWhile isPart)
    match r.dropWhile isPart with
    | [] => number? negative (whole ++ fraction) fraction.length 0
    | c :: r =>
      if isExponentMark c then number? negative (whole ++ fraction) fraction.length (← exponent? r) else none
  | c :: r => if isExponentMark c then number? negative whole 0 (← exponent? r) else none

/-- a value without quotes or brackets -/
def atom? (cs : List Char) : Option Value :=
  if cs = "true".toList then some (.flag true)
  else if cs = "false".toList then some (.flag false)
  else
    match cs with
    | '0' :: 'x' :: r => based? 16 r
    | '0' :: 'o' :: r => based? 8 r
    | '0' :: 'b' :: r => based? 2 r
    | _ => decimal? cs

/-! ## Documents -/

/-- the strings of an array after its opening bracket -/
def texts? (cs : List Char) : Option (List String × List Char) :=
  match afterGaps? false cs with
  | none => none
  | some (']' :: r) => some ([], r)
  | some cs' =>
    match string? cs' with
    | none => none
    | some (s, r) =>
      match afterGaps? false r with
      | some (']' :: r) => some ([s], r)
      | some (',' :: r) => if r.length < cs.length then (texts? r).map fun (ss, r) => (s :: ss, r) else none
      | _ => none
termination_by cs.length

/-- a value, and what follows it -/
def value? (cs : List Char) : Option (Value × List Char) :=
  match cs with
  | [] => none
  | c :: r =>
    if c = '"' || c = '\'' then (string? cs).map fun (s, r) => (.text s, r)
    else if c = '[' then (texts? r).map fun (ss, r) => (.texts ss, r)
    else (atom? (cs.takeWhile isAtomChar)).map (·, cs.dropWhile isAtomChar)

/-- a key, and what follows it -/
def key? (cs : List Char) : Option (String × List Char) :=
  match cs with
  | '"' :: r => (quotedBody r).map fun (s, r) => (String.ofList s, r)
  | '\'' :: r => (literalBody r).map fun (s, r) => (String.ofList s, r)
  | _ =>
    let name := cs.takeWhile isBareKeyChar
    if name = [] then none else some (String.ofList name, cs.dropWhile isBareKeyChar)

/-- a line with a key and a value, and what follows it -/
def entry? (cs : List Char) : Option ((String × Value) × List Char) := do
  let (key, r) ← key? cs
  match r.dropWhile isGap with
  | '=' :: r =>
    let (value, r) ← value? (r.dropWhile isGap)
    let r ← afterLine? r
    some ((key, value), r)
  | _ => none

/-- the lines of a document -/
def lines? (cs : List Char) : Option (List (String × Value)) :=
  if cs = [] then some []
  else
    match afterLine? cs with
    | some r => if r.length < cs.length then lines? r else none
    | none =>
      match entry? (cs.dropWhile isGap) with
      | some (e, r) => if r.length < cs.length then (lines? r).map (e :: ·) else none
      | none => none
termination_by cs.length

/-- the keys and values of a flat document, no key twice -/
def entries? (s : String) : Option (List (String × Value)) := do
  let cs := s.toList
  let entries ← lines? (if cs.head? = some '\uFEFF' then cs.drop 1 else cs)
  if (entries.map Prod.fst).Nodup then some entries else none

end CallAtlas.Toml
