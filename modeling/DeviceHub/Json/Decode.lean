import DeviceHub.Json.Value

/-!
# Decoding typed values

A decoder turns a JSON value into a value of another type or says what is wrong and where. The first
fault counts: members of a record are looked at in the order they stand in, and only then does a
missing one count, in the order of the record's fields.

A record may also be given as the list of its fields in order.
-/
namespace DeviceHub.Json

/-- What is wrong with a part of a value. -/
inductive FaultKind where
  | message
  | invalidType
  | invalidValue
  | invalidLength
  | unknownVariant
  | missingField
  | duplicateField
  deriving DecidableEq

def FaultKind.name : FaultKind → String
  | .message => "Message"
  | .invalidType => "InvalidType"
  | .invalidValue => "InvalidValue"
  | .invalidLength => "InvalidLength"
  | .unknownVariant => "UnknownVariant"
  | .missingField => "MissingField"
  | .duplicateField => "DuplicateField"

/-- A fault and the keys and positions that lead to it, from the outside. -/
structure Fault where
  kind : FaultKind
  path : List String
  deriving DecidableEq

/-- What differs between the sources that values come from. -/
structure Dialect where
  /-- Whether a named choice may be given by its position. -/
  numberedChoices : Bool

/-- The dialect of JSON texts. -/
def Dialect.plain : Dialect := ⟨false⟩

abbrev Decoder (α : Type) := Json → Except Fault α

namespace Decode

variable {α : Type}

def fault (kind : FaultKind) : Except Fault α := .error ⟨kind, []⟩

/-- A result inside the part named `key`. -/
def within (key : String) : Except Fault α → Except Fault α
  | .ok a => .ok a
  | .error f => .error { f with path := key :: f.path }

def text : Decoder String
  | .text s => .ok s
  | _ => fault .invalidType

def bool : Decoder Bool
  | .bool b => .ok b
  | _ => fault .invalidType

/-- An integer between two bounds. -/
def integerWithin (low high : Int) : Decoder Int
  | .number (.integer n) => if low ≤ n ∧ n ≤ high then .ok n else fault .invalidValue
  | _ => fault .invalidType

def int64 : Decoder Int := integerWithin (-0x8000000000000000) 0x7fffffffffffffff

def nat64 : Decoder Nat := fun v => (integerWithin 0 0xffffffffffffffff v).map Int.toNat

def nat32 : Decoder Nat := fun v => (integerWithin 0 0xffffffff v).map Int.toNat

/-- A value that may be null. -/
def optional (d : Decoder α) : Decoder (Option α)
  | .null => .ok none
  | v => (d v).map some

/-- Items decoded one after the other, from a position on. -/
def itemsFrom (d : Decoder α) (i : Nat) : List Json → Except Fault (List α)
  | [] => .ok []
  | v :: vs => do
    let a ← within (toString i) (d v)
    let as ← itemsFrom d (i + 1) vs
    .ok (a :: as)

def list (d : Decoder α) : Decoder (List α)
  | .array items => itemsFrom d 0 items
  | _ => fault .invalidType

def membersOf (d : Decoder α) : List (String × Json) → Except Fault (List (String × α))
  | [] => .ok []
  | (key, v) :: vs => do
    let a ← within key (d v)
    let as ← membersOf d vs
    .ok ((key, a) :: as)

def dict (d : Decoder α) : Decoder (Dict α)
  | .object members => (membersOf d members).map Dict.ofList
  | _ => fault .invalidType

/-- One of some named choices. -/
def choice (dialect : Dialect) (choices : List (String × α)) : Decoder α
  | .text s => match Dict.get? choices s with
    | some a => .ok a
    | none => fault .unknownVariant
  | .object [(s, .null)] => match Dict.get? choices s with
    | some a => .ok a
    | none => fault .unknownVariant
  | .number (.integer n) =>
    if dialect.numberedChoices ∧ 0 ≤ n ∧ n ≤ 0xffffffff then
      match choices[n.toNat]? with
      | some (_, a) => .ok a
      | none => fault .invalidValue
    else fault .invalidType
  | _ => fault .invalidType

/-- A field of a record: the keys it may stand under and the test of its value. -/
structure Field where
  keys : List String
  test : Json → Except Fault Unit

/-- A field with one key. -/
def field (key : String) (d : Decoder α) : Field := ⟨[key], fun v => (d v).map fun _ => ()⟩

/-- A field with a second key. -/
def fieldWithAlias (key alternative : String) (d : Decoder α) : Field :=
  ⟨[key, alternative], fun v => (d v).map fun _ => ()⟩

/-- The values found for the fields of a record. -/
structure Found where
  positional : Bool
  values : List (Option Json)

/-- The values of fields as the members of an object give them. -/
def scanMembers (fields : List Field) (values : List (Option Json)) :
    List (String × Json) → Except Fault (List (Option Json))
  | [] => .ok values
  | (key, v) :: rest =>
    match fields.findIdx? fun f => f.keys.contains key with
    | none => scanMembers fields values rest
    | some i =>
      if ((values[i]?).join).isSome then fault .duplicateField
      else do
        match fields[i]? with
        | some f => within key (f.test v)
        | none => .ok ()
        scanMembers fields (values.set i (some v)) rest

/-- The values of fields given in order. -/
def scanItems (i : Nat) : List Field → List Json → Except Fault (List (Option Json))
  | _, [] => .ok []
  | [], _ :: _ => fault .invalidLength
  | f :: fs, v :: vs => do
    within (toString i) (f.test v)
    let rest ← scanItems (i + 1) fs vs
    .ok (some v :: rest)

/-- The values of the fields of a record. -/
def record (fields : List Field) : Decoder Found
  | .object members =>
    (scanMembers fields (List.replicate fields.length none) members).map fun vs => ⟨false, vs⟩
  | .array items => (scanItems 0 fields items).map fun vs => ⟨true, vs⟩
  | _ => fault .invalidType

/-- The value of a field that must be there. -/
def Found.required (f : Found) (i : Nat) (d : Decoder α) : Except Fault α :=
  match (f.values[i]?).join with
  | some v => d v
  | none => fault (if f.positional then .invalidLength else .missingField)

/-- The value of a field that may be missing. -/
def Found.withDefault (f : Found) (i : Nat) (d : Decoder α) (default : α) : Except Fault α :=
  match (f.values[i]?).join with
  | some v => d v
  | none => .ok default

/-- The value of a field that may be null and, where fields have names, missing. -/
def Found.nullable (f : Found) (i : Nat) (d : Decoder α) : Except Fault (Option α) :=
  match (f.values[i]?).join with
  | some v => Decode.optional d v
  | none => if f.positional then fault .invalidLength else .ok none

/-- The value of a field that may be missing or null. -/
def Found.optional (f : Found) (i : Nat) (d : Decoder α) : Except Fault (Option α) :=
  f.withDefault i (Decode.optional d) none

end Decode

end DeviceHub.Json
