/-
Indexes read from bytes.

The messages of an index and the kinds of their fields are listed in `shape?`. A field whose payload fits its kind has
to be right all the way down: texts are UTF-8, numbers fit in 32 bits, messages inside messages are no deeper than
`deepest`. Fields that are not listed, and listed ones with another wire type, are passed over. Of a field that holds
one value the last mention counts; `Index.ofBytes?` keeps what a program is made of.
-/
import CallAtlas.Index
import CallAtlas.Index.Wire

namespace CallAtlas

/-- the messages of an index -/
inductive MessageKind where
  | index
  | metadata
  | toolInfo
  | document
  | symbolInformation
  | relationship
  | occurrence
  | diagnostic
  deriving DecidableEq, Repr

/-- what a field holds -/
inductive FieldShape where
  | text
  | int32
  | flag
  /-- any number of numbers, packed or not -/
  | int32s
  | message (kind : MessageKind)
  deriving DecidableEq, Repr

/-- what a field of a message holds, if the field is known -/
def MessageKind.shape? : MessageKind → Nat → Option FieldShape
  | .index, 1 => some (.message .metadata)
  | .index, 2 => some (.message .document)
  | .index, 3 => some (.message .symbolInformation)
  | .metadata, 1 => some .int32
  | .metadata, 2 => some (.message .toolInfo)
  | .metadata, 3 => some .text
  | .metadata, 4 => some .int32
  | .toolInfo, 1 => some .text
  | .toolInfo, 2 => some .text
  | .toolInfo, 3 => some .text
  | .document, 1 => some .text
  | .document, 2 => some (.message .occurrence)
  | .document, 3 => some (.message .symbolInformation)
  | .document, 4 => some .text
  | .document, 5 => some .text
  | .document, 6 => some .int32
  | .symbolInformation, 1 => some .text
  | .symbolInformation, 3 => some .text
  | .symbolInformation, 4 => some (.message .relationship)
  | .symbolInformation, 5 => some .int32
  | .symbolInformation, 6 => some .text
  | .symbolInformation, 7 => some (.message .document)
  | .symbolInformation, 8 => some .text
  | .relationship, 1 => some .text
  | .relationship, 2 => some .flag
  | .relationship, 3 => some .flag
  | .relationship, 4 => some .flag
  | .relationship, 5 => some .flag
  | .occurrence, 1 => some .int32s
  | .occurrence, 2 => some .text
  | .occurrence, 3 => some .int32
  | .occurrence, 4 => some .text
  | .occurrence, 5 => some .int32
  | .occurrence, 6 => some (.message .diagnostic)
  | .occurrence, 7 => some .int32s
  | .diagnostic, 1 => some .int32
  | .diagnostic, 2 => some .text
  | .diagnostic, 3 => some .text
  | .diagnostic, 4 => some .text
  | .diagnostic, 5 => some .int32s
  | _, _ => none

/-- whether the bytes of a field are a message or a run of numbers -/
def FieldShape.isPart : FieldShape → Bool
  | .int32s | .message _ => true
  | _ => false

/-- the value of a known field -/
inductive FieldValue where
  | text (s : String)
  | ints (ns : List Int)
  | message (fields : List (Nat × FieldValue))
  /-- nothing that is used -/
  | skipped
  deriving Repr

namespace FieldValue

/-- the texts under a field number -/
def texts (number : Nat) (fields : List (Nat × FieldValue)) : List String :=
  fields.filterMap fun
    | (n, .text s) => if n = number then some s else none
    | _ => none

/-- the numbers under a field number -/
def numbers (number : Nat) (fields : List (Nat × FieldValue)) : List Int :=
  fields.flatMap fun
    | (n, .ints ns) => if n = number then ns else []
    | _ => []

/-- the messages under a field number -/
def messages (number : Nat) (fields : List (Nat × FieldValue)) : List (List (Nat × FieldValue)) :=
  fields.filterMap fun
    | (n, .message fs) => if n = number then some fs else none
    | _ => none

end FieldValue

/-- how deep messages may stand inside messages -/
def MessageKind.deepest : Nat := 100

/-- the value of a field, given how to read a message inside it -/
def FieldShape.value? (message : MessageKind → Nat → List UInt8 → Option (List (Nat × FieldValue))) :
    Option FieldShape → Wire.Payload → Option FieldValue
  | some .text, .bytes bs => (String.fromUTF8? ⟨bs.toArray⟩).map .text
  | some .int32, .varint n => (Wire.int32? n).map fun i => .ints [i]
  | some .int32s, .varint n => (Wire.int32? n).map fun i => .ints [i]
  | some .int32s, .part _ bs => do return .ints (← (← Wire.packed? bs).mapM Wire.int32?)
  | some (.message kind), .part missing bs => (message kind missing bs).map .message
  | _, _ => some .skipped

/-- the fields of a message, `missing` bytes of which are not there, that may hold messages to a depth -/
def MessageKind.decode? : Nat → MessageKind → Nat → List UInt8 → Option (List (Nat × FieldValue))
  | 0, _, _, _ => none
  | depth + 1, kind, missing, bs => do
    (← Wire.fields? (fun number => (kind.shape? number).any FieldShape.isPart) missing bs).mapM
      fun (number, payload) =>
        (FieldShape.value? (MessageKind.decode? depth) (kind.shape? number) payload).map (number, ·)

namespace Occurrence

/-- an occurrence from the fields of its message -/
def ofFields (fields : List (Nat × FieldValue)) : Occurrence where
  symbol := (FieldValue.texts 2 fields).getLast?.getD ""
  range := FieldValue.numbers 1 fields
  enclosingRange := FieldValue.numbers 7 fields
  roles := (FieldValue.numbers 3 fields).getLast?.getD 0

end Occurrence

namespace Document

/-- a document from the fields of its message -/
def ofFields (fields : List (Nat × FieldValue)) : Document where
  path := (FieldValue.texts 1 fields).getLast?.getD ""
  occurrences := (FieldValue.messages 2 fields).map Occurrence.ofFields

end Document

namespace Index

/-- where the last part of an index may end at most: the largest number of 64 bits -/
def furthest : Nat := 18446744073709551615

/-- the index that bytes hold; nothing announces its own length, so it may go on to `furthest` -/
def ofBytes? (bs : List UInt8) : Option Index := do
  let fields ← MessageKind.decode? (MessageKind.deepest + 1) .index (furthest - bs.length) bs
  return ⟨(FieldValue.messages 2 fields).map Document.ofFields⟩

end Index

end CallAtlas
