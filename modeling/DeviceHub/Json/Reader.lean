import DeviceHub.Json.Numeral

/-!
# Reading JSON

Reading has two steps. The first recognises the text and keeps what is written: members in their
order, repeated keys, numerals. The second makes a value: of a repeated key the last member counts,
numerals become numbers, and nesting is limited.

Both steps are total. The recogniser spends one unit of fuel for each value, element or member that
it enters, so three units a character are always enough.
-/
namespace DeviceHub.Json

/-- A JSON text as written. -/
inductive Written where
  | null
  | bool (value : Bool)
  | numeral (value : Numeral)
  | text (value : String)
  | array (items : List Written)
  | object (members : List (String × Written))

namespace Reader

/-- Space between tokens. -/
def isSpace (c : Char) : Bool := c = ' ' || c = '\n' || c = '\t' || c = '\r'

def skip (cs : List Char) : List Char := cs.dropWhile isSpace

def hexDigit? (c : Char) : Option Nat :=
  let n := c.toNat
  if 48 ≤ n ∧ n ≤ 57 then some (n - 48)
  else if 97 ≤ n ∧ n ≤ 102 then some (n - 87)
  else if 65 ≤ n ∧ n ≤ 70 then some (n - 55)
  else none

/-- Four hexadecimal digits. -/
def unit? : List Char → Option (Nat × List Char)
  | a :: b :: c :: d :: r => do
    let n := (((← hexDigit? a) * 16 + (← hexDigit? b)) * 16 + (← hexDigit? c)) * 16 +
      (← hexDigit? d)
    some (n, r)
  | _ => none

/-- The character of an escape, its backslash already read. Units of surrogates come in pairs. -/
def escape? : List Char → Option (Char × List Char)
  | '"' :: r => some ('"', r)
  | '\\' :: r => some ('\\', r)
  | '/' :: r => some ('/', r)
  | 'b' :: r => some ('\x08', r)
  | 'f' :: r => some ('\x0c', r)
  | 'n' :: r => some ('\n', r)
  | 'r' :: r => some ('\r', r)
  | 't' :: r => some ('\t', r)
  | 'u' :: r => do
    let (high, rest) ← unit? r
    if 0xD800 ≤ high ∧ high < 0xDC00 then
      match rest with
      | '\\' :: 'u' :: r' => do
        let (low, rest') ← unit? r'
        if 0xDC00 ≤ low ∧ low < 0xE000 then
          some (Char.ofNat (0x10000 + (high - 0xD800) * 0x400 + (low - 0xDC00)), rest')
        else none
      | _ => none
    else if 0xDC00 ≤ high ∧ high < 0xE000 then none
    else some (Char.ofNat high, rest)
  | _ => none

/-- The characters of a string, its opening quote already read. -/
def string? (fuel : Nat) (cs : List Char) : Option (List Char × List Char) :=
  match fuel, cs with
  | _, '"' :: r => some ([], r)
  | fuel + 1, '\\' :: r => do
    let (c, rest) ← escape? r
    let (s, rest') ← string? fuel rest
    some (c :: s, rest')
  | fuel + 1, c :: r => do
    if c.toNat < 32 then none
    else
      let (s, rest) ← string? fuel r
      some (c :: s, rest)
  | _, _ => none

/-- The digits at the start of a text, one at least. -/
def digits? (cs : List Char) : Option (List Char × List Char) :=
  let ds := cs.takeWhile Decimal.isDigit
  if ds = [] then none else some (ds, cs.dropWhile Decimal.isDigit)

/-- The digits before the point: `0`, or digits that do not start with it. -/
def whole? (cs : List Char) : Option (List Char × List Char) := do
  let (ds, rest) ← digits? cs
  if ds.head? = some '0' ∧ ds.length ≠ 1 then none else some (ds, rest)

def fraction? : List Char → Option (Option (List Char) × List Char)
  | '.' :: r => (digits? r).map fun (ds, rest) => (some ds, rest)
  | cs => some (none, cs)

def exponent? : List Char → Option (Option Int × List Char)
  | c :: r =>
    if c = 'e' ∨ c = 'E' then do
      let (negative, body) := Decimal.splitSign r
      let (ds, rest) ← digits? body
      let n : Int := Decimal.ofDigits ds
      some (some (if negative then -n else n), rest)
    else some (none, c :: r)
  | [] => some (none, [])

/-- A numeral. -/
def numeral? (cs : List Char) : Option (Numeral × List Char) := do
  let (negative, body) := match cs with
    | '-' :: r => (true, r)
    | r => (false, r)
  let (whole, rest) ← whole? body
  let (fraction, rest) ← fraction? rest
  let (exponent, rest) ← exponent? rest
  some (⟨negative, whole, fraction, exponent⟩, rest)

/-- The rest of a text that starts with a word. -/
def word? (word : String) (cs : List Char) : Option (List Char) :=
  if word.toList.isPrefixOf cs then some (cs.drop word.length) else none

mutual

/-- A value at the start of a text. -/
def value? (fuel : Nat) (cs : List Char) : Option (Written × List Char) :=
  match fuel with
  | 0 => none
  | fuel + 1 =>
    match skip cs with
    | '"' :: r => (string? r.length r).map fun (s, rest) => (.text (String.ofList s), rest)
    | '[' :: r =>
      match skip r with
      | ']' :: rest => some (.array [], rest)
      | rest => (items? fuel rest).map fun (items, rest) => (.array items, rest)
    | '{' :: r =>
      match skip r with
      | '}' :: rest => some (.object [], rest)
      | rest => (members? fuel rest).map fun (members, rest) => (.object members, rest)
    | 'n' :: r => (word? "ull" r).map fun rest => (.null, rest)
    | 't' :: r => (word? "rue" r).map fun rest => (.bool true, rest)
    | 'f' :: r => (word? "alse" r).map fun rest => (.bool false, rest)
    | rest => (numeral? rest).map fun (n, rest) => (.numeral n, rest)

/-- One item or more, and the closing bracket. -/
def items? (fuel : Nat) (cs : List Char) : Option (List Written × List Char) :=
  match fuel with
  | 0 => none
  | fuel + 1 => do
    let (item, rest) ← value? fuel cs
    match skip rest with
    | ']' :: rest => some ([item], rest)
    | ',' :: rest => do
      let (items, rest) ← items? fuel rest
      some (item :: items, rest)
    | _ => none

/-- One member or more, and the closing brace. -/
def members? (fuel : Nat) (cs : List Char) : Option (List (String × Written) × List Char) :=
  match fuel with
  | 0 => none
  | fuel + 1 =>
    match skip cs with
    | '"' :: r => do
      let (key, rest) ← string? r.length r
      match skip rest with
      | ':' :: rest => do
        let (value, rest) ← value? fuel rest
        match skip rest with
        | '}' :: rest => some ([(String.ofList key, value)], rest)
        | ',' :: rest => do
          let (members, rest) ← members? fuel rest
          some ((String.ofList key, value) :: members, rest)
        | _ => none
      | _ => none
    | _ => none

end

end Reader

/-- A whole text as written. -/
def Written.read? (text : String) : Option Written := do
  let cs := text.toList
  let (value, rest) ← Reader.value? (3 * cs.length + 3) cs
  if Reader.skip rest = [] then some value else none

mutual

/-- The value of a text, when it has no number too large and nests at most `limit` levels. -/
def Written.json? (limit : Nat) : Written → Option Json
  | .null => some .null
  | .bool b => some (.bool b)
  | .numeral n => n.number?.map .number
  | .text s => some (.text s)
  | .array items =>
    match limit with
    | 0 => none
    | limit + 1 => (Written.itemsJson? limit items).map .array
  | .object members =>
    match limit with
    | 0 => none
    | limit + 1 => (Written.membersJson? limit members).map fun ms => .object (Dict.ofList ms)

def Written.itemsJson? (limit : Nat) : List Written → Option (List Json)
  | [] => some []
  | w :: ws => do
    let v ← Written.json? limit w
    let vs ← Written.itemsJson? limit ws
    some (v :: vs)

def Written.membersJson? (limit : Nat) : List (String × Written) → Option (List (String × Json))
  | [] => some []
  | (key, w) :: ws => do
    let v ← Written.json? limit w
    let vs ← Written.membersJson? limit ws
    some ((key, v) :: vs)

end

/-- The deepest nesting that is read. -/
def depthLimit : Nat := 127

/-- The value of a JSON text. -/
def read? (text : String) : Option Json := (Written.read? text).bind (Written.json? depthLimit)

end DeviceHub.Json
