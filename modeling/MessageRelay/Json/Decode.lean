import MessageRelay.Json.Reader

/-!
# Values out of JSON

How numbers, texts, byte strings, named choices and records are found in a JSON value. A natural
number has neither a sign nor a fraction nor an exponent. A choice is its name, or an object whose
only field has that name and is null. A record is an object that has each of its fields once, other
fields being passed over, or an array of exactly its fields in order.
-/

set_option autoImplicit false

namespace MessageRelay.Json

mutual

/-- Whether a value that nobody reads may stand: no string in it has a control character that
stands for itself. -/
def ignorable : Json → Bool
  | .string pieces => StringPiece.clean pieces
  | .array items => ignorableItems items
  | .object fields => ignorableFields fields
  | _ => true

/-- Whether all items may stand. -/
def ignorableItems : List Json → Bool
  | [] => true
  | item :: items => ignorable item && ignorableItems items

/-- Whether all fields may stand. -/
def ignorableFields : List (List StringPiece × Json) → Bool
  | [] => true
  | (name, value) :: fields =>
    StringPiece.clean name && ignorable value && ignorableFields fields

end

/-- A natural number of at most `bound`. -/
def asNatural? (bound : Nat) : Json → Option Nat
  | .number literal =>
    (Text.digits? 10 (literal.map fun b => Char.ofNat b.toNat)).filter (· ≤ bound)
  | _ => none

/-- A text. -/
def asText? : Json → Option String
  | .string pieces => StringPiece.asText pieces
  | _ => none

/-- A byte string: an array of numbers below 256, or the bytes of a string. -/
def asBytes? : Json → Option Bytes
  | .array items => items.mapM fun item => (asNatural? 255 item).map UInt8.ofNat
  | .string pieces => some (StringPiece.bytes pieces)
  | _ => none

/-- A name among given ones. -/
def asChoice? : Json → Option String
  | .string pieces => StringPiece.asText pieces
  | .object [(name, .null)] => StringPiece.asText name
  | _ => none

/-- The values of the fields with a name, and whether all other fields may stand. -/
def pick (name : String) (fields : List (String × Json)) : List Json :=
  (fields.filter fun field => field.1 == name).map (·.2)

/-- The values of a record's fields, in the order of their names. -/
def asRecord? (names : List String) : Json → Option (List Json)
  | .array items => if items.length = names.length then some items else none
  | .object fields => do
    let named ← fields.mapM fun (name, value) =>
      (StringPiece.asText name).map fun text => (text, value)
    if named.all fun (name, value) => names.contains name || ignorable value then
      names.mapM fun name =>
        match pick name named with
        | [value] => some value
        | _ => none
    else none
  | _ => none

end MessageRelay.Json
