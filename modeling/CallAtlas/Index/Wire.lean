/-
Messages as bytes.

A message is a sequence of fields, each a tag with a number and a wire type and then a payload: a number in groups of
seven bits, eight or four bytes, bytes after their count, or a group that runs to its closing tag. `fields?` takes a
message apart. What a field means is not looked at here; groups are skipped.

Tags and the counts of plain bytes are numbers of 32 bits, all other numbers have 64, and none takes more bytes than
the largest number of its size. Plain bytes have to be there in full. A part, which is a message or a run of numbers
inside a message, may announce more bytes than there are and ends with the input then, but it may not announce more
than the message around it did. So a message is read with the number of its announced bytes that are `missing`, and a
part fits if its count is at most the bytes left and the missing ones together.
-/

namespace CallAtlas.Wire

/-- what a field holds -/
inductive Payload where
  | varint (n : Nat)
  | bytes (bs : List UInt8)
  /-- a message or a run of numbers: what is there of it, and how many of its bytes are not -/
  | part (missing : Nat) (bs : List UInt8)
  /-- eight bytes, four bytes or a group, none of which is used -/
  | other
  deriving DecidableEq, Repr

/-- a number in groups of seven bits, lowest first, of at most `limit` bytes -/
def groups? : Nat → List UInt8 → Option (Nat × List UInt8)
  | 0, _ => none
  | _ + 1, [] => none
  | limit + 1, b :: r =>
    if b < 0x80 then some (b.toNat, r)
    else (groups? limit r).map fun (n, r) => (128 * n + (b.toNat - 128), r)

/-- a number of so many bits, and what follows it -/
def number? (bits : Nat) (bs : List UInt8) : Option (Nat × List UInt8) :=
  match groups? ((bits + 6) / 7) bs with
  | some (n, r) => if n < Nat.pow 2 bits then some (n, r) else none
  | none => none

/-- a field number and a wire type, and what follows them -/
def tag? (bs : List UInt8) : Option ((Nat × Nat) × List UInt8) :=
  match number? 32 bs with
  | some (n, r) => if n / 8 ≠ 0 && n % 8 ≤ 5 then some ((n / 8, n % 8), r) else none
  | none => none

/-- as many bytes as asked for, and what follows them -/
def take? (count : Nat) (bs : List UInt8) : Option (List UInt8 × List UInt8) :=
  if bs.length < count then none else some (bs.take count, bs.drop count)

/-- the payload of a field that is no group and no part, and what follows it -/
def payload? (wireType : Nat) (bs : List UInt8) : Option (Payload × List UInt8) :=
  match wireType with
  | 0 => (number? 64 bs).map fun (n, r) => (.varint n, r)
  | 1 => (take? 8 bs).map fun (_, r) => (.other, r)
  | 2 =>
    match number? 32 bs with
    | some (count, r) => (take? count r).map fun (front, r) => (.bytes front, r)
    | none => none
  | 5 => (take? 4 bs).map fun (_, r) => (.other, r)
  | _ => none

/-- a part of a message of which `missing` bytes are not there, and what follows it -/
def part? (missing : Nat) (bs : List UInt8) : Option (Payload × List UInt8) :=
  match number? 64 bs with
  | some (count, r) =>
    if count ≤ r.length + missing then some (.part (count - r.length) (r.take count), r.drop count) else none
  | none => none

/-- what follows a group; `inner` groups inside it are open as well -/
def afterGroup? (inner : Nat) (bs : List UInt8) : Option (List UInt8) :=
  match tag? bs with
  | none => none
  | some ((_, wireType), r) =>
    if r.length < bs.length then
      if wireType = 4 then if inner = 0 then some r else afterGroup? (inner - 1) r
      else if wireType = 3 then afterGroup? (inner + 1) r
      else
        match payload? wireType r with
        | some (_, r) => if r.length < bs.length then afterGroup? inner r else none
        | none => none
    else none
termination_by bs.length

/-- one field, and what follows it -/
def field? (isPart : Nat → Bool) (missing : Nat) (bs : List UInt8) : Option ((Nat × Payload) × List UInt8) := do
  let ((number, wireType), r) ← tag? bs
  if wireType = 3 then
    let r ← afterGroup? 0 r
    return ((number, .other), r)
  else
    let (payload, r) ← if wireType = 2 && isPart number then part? missing r else payload? wireType r
    return ((number, payload), r)

/-- the fields of a message; `isPart` tells the field numbers whose bytes are parts -/
def fields? (isPart : Nat → Bool) (missing : Nat) (bs : List UInt8) : Option (List (Nat × Payload)) :=
  if bs = [] then some []
  else
    match field? isPart missing bs with
    | some (f, r) => if r.length < bs.length then (fields? isPart missing r).map (f :: ·) else none
    | none => none
termination_by bs.length

/-- the numbers in a run -/
def packed? (bs : List UInt8) : Option (List Nat) :=
  if bs = [] then some []
  else
    match number? 64 bs with
    | some (n, r) => if r.length < bs.length then (packed? r).map (n :: ·) else none
    | none => none
termination_by bs.length

/-- a number of 64 bits as a signed number of 32 bits, if it is one -/
def int32? (n : Nat) : Option Int :=
  if n < 2147483648 then some n
  else if 18446744071562067968 ≤ n then some ((n : Int) - 18446744073709551616)
  else none

end CallAtlas.Wire
