/-
Descriptors: the parts of a symbol's path.

A descriptor is a name with marks that tell its kind: `a/` a namespace, `a#` a type, `a.` a term, `a:` a meta item, `a!`
a macro, `a(x).` a method with any text but a closing parenthesis as `x`, `[a]` a type parameter, `(a)` a parameter. A
name is a run of identifier characters, or any text between backticks in which a backtick is written twice.
`descriptors?` reads a whole path and refuses anything else.
-/
import CallAtlas.Text.WordChar

namespace CallAtlas

/-- the kind of a descriptor -/
inductive DescriptorKind where
  | space
  | type
  | term
  | metaItem
  | macroItem
  | method
  | typeParameter
  | parameter
  deriving DecidableEq, Repr

/-- one part of a symbol's path -/
structure Descriptor where
  kind : DescriptorKind
  name : String
  deriving DecidableEq, Repr

namespace Descriptor

/-- a character of a name without backticks -/
def isNameChar (c : Char) : Bool :=
  Text.isWordChar c || c = '_' || c = '+' || c = '-' || c = '$'

/-- the quote around names -/
def tick : Char := '\x60'

/-- a quoted name after its opening backtick, and what follows it -/
def quotedName? : List Char → Option (List Char × List Char)
  | [] => none
  | c :: r =>
    if c = tick then
      match r with
      | d :: r' => if d = tick then (quotedName? r').map fun (cs, r) => (tick :: cs, r) else some ([], r)
      | [] => some ([], [])
    else (quotedName? r).map fun (cs, r) => (c :: cs, r)

/-- a name at the front, and what follows it -/
def name? (cs : List Char) : Option (String × List Char) :=
  match cs with
  | [] => none
  | c :: r =>
    if c = tick then (quotedName? r).map fun (cs, r) => (String.ofList cs, r)
    else
      let name := cs.takeWhile isNameChar
      if name = [] then none else some (String.ofList name, cs.dropWhile isNameChar)

/-- what follows the text up to a closing parenthesis and a dot -/
def afterSignature? (cs : List Char) : Option (List Char) :=
  match cs.dropWhile (· ≠ ')') with
  | _ :: '.' :: r => some r
  | _ => none

/-- a name in brackets, and what follows it -/
def bracketed? (kind : DescriptorKind) (close : Char) (cs : List Char) : Option (Descriptor × List Char) :=
  match name? cs with
  | some (name, c :: r) => if c = close then some (⟨kind, name⟩, r) else none
  | _ => none

/-- a name and the mark after it, and what follows -/
def marked? (cs : List Char) : Option (Descriptor × List Char) :=
  match name? cs with
  | some (name, c :: r) =>
    if c = '/' then some (⟨.space, name⟩, r)
    else if c = '#' then some (⟨.type, name⟩, r)
    else if c = '.' then some (⟨.term, name⟩, r)
    else if c = ':' then some (⟨.metaItem, name⟩, r)
    else if c = '!' then some (⟨.macroItem, name⟩, r)
    else if c = '(' then (afterSignature? r).map fun r => (⟨.method, name⟩, r)
    else none
  | _ => none

/-- a descriptor at the front, and what follows it -/
def first? (cs : List Char) : Option (Descriptor × List Char) :=
  match cs with
  | [] => none
  | c :: r =>
    if c = '[' then bracketed? .typeParameter ']' r
    else if c = '(' then bracketed? .parameter ')' r
    else marked? cs

end Descriptor

/-- the descriptors of a path -/
def descriptors? (cs : List Char) : Option (List Descriptor) :=
  if cs = [] then some []
  else
    match Descriptor.first? cs with
    | some (d, r) => if r.length < cs.length then (descriptors? r).map (d :: ·) else none
    | none => none
termination_by cs.length

end CallAtlas
