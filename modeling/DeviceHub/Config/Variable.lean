import DeviceHub.Decimal.Numeral
import DeviceHub.Json.Value
import DeviceHub.Text.Blank
import DeviceHub.Toml.Text

/-!
# Values of environment variables

A variable may hold a truth value, a number, a text in quotes, a list in brackets or a dictionary in
braces. Whatever cannot be read so to its end is a text as it stands.
-/
namespace DeviceHub.Variable

/-- What ends a word. -/
def isSeparator (c : Char) : Bool := ",\x7b\x7d[]".toList.contains c

/-- Characters of the keys of dictionaries. -/
def isKeyChar (c : Char) : Bool := c.isAlphanum || c = '_' || c = '-'

/-- A word as a number if it is one, else as a text. -/
def word (cs : List Char) : Json :=
  let asText := Json.text (String.ofList cs)
  let asInteger : Json := match Decimal.readInt? cs with
    | some n =>
      if (0 ≤ n ∧ n ≤ 0xffffffffffffffff ∧ cs.head? ≠ some '-') ∨ Decimal.fitsInt64 n then
        Json.integer n
      else asText
    | none => asText
  if cs.contains '.' then
    match Binary64.read? cs with
    | some x => .number (.decimal x)
    | none => asInteger
  else asInteger

/-- A text in quotes, from behind the opening one. -/
def quoted? (cs : List Char) : Option (String × List Char) :=
  (Toml.basic? (cs.length + 1) cs).map fun (t, rest) => (String.ofList t, rest)

/-- A key of a dictionary and what stands behind it. -/
def key? (cs : List Char) : Option (String × List Char) :=
  match cs with
  | '"' :: rest => quoted? rest
  | _ =>
    match cs.takeWhile isKeyChar with
    | [] => none
    | name => some (String.ofList name, cs.dropWhile isKeyChar)

mutual

/-- A value and what stands behind it and the spaces after it. -/
def value? : Nat → List Char → Option (Json × List Char)
  | 0, _ => none
  | fuel + 1, cs =>
    let found : Option (Json × List Char) := match Toml.skipSpaces cs with
      | 't' :: 'r' :: 'u' :: 'e' :: rest => some (.bool true, rest)
      | 'f' :: 'a' :: 'l' :: 's' :: 'e' :: rest => some (.bool false, rest)
      | '\x7b' :: rest => (entries? fuel rest).map fun (es, rest) => (.object (Dict.ofList es), rest)
      | '[' :: rest => (items? fuel rest).map fun (vs, rest) => (.array vs, rest)
      | '"' :: rest => (quoted? rest).map fun (t, rest) => (.text t, rest)
      | '\'' :: c :: '\'' :: rest => some (.text (String.ofList [c]), rest)
      | '\'' :: _ => none
      | cs =>
        let inWord (c : Char) : Bool := !isSeparator c
        some (word (Text.trim (cs.takeWhile inWord)), cs.dropWhile inWord)
    found.map fun (v, rest) => (v, Toml.skipSpaces rest)

/-- The items of a list up to its closing bracket. -/
def items? : Nat → List Char → Option (List Json × List Char)
  | 0, _ => none
  | fuel + 1, cs =>
    match cs with
    | ']' :: rest => some ([], rest)
    | _ => do
      let (v, cs) ← value? fuel cs
      match cs with
      | ',' :: cs => do
        let (vs, rest) ← items? fuel cs
        some (v :: vs, rest)
      | ']' :: rest => some ([v], rest)
      | _ => none

/-- The entries of a dictionary up to its closing brace. -/
def entries? : Nat → List Char → Option (List (String × Json) × List Char)
  | 0, _ => none
  | fuel + 1, cs =>
    match cs with
    | '\x7d' :: rest => some ([], rest)
    | _ => do
      let (key, cs) ← key? (Toml.skipSpaces cs)
      match Toml.skipSpaces cs with
      | '=' :: cs => do
        let (v, cs) ← value? fuel cs
        match cs with
        | ',' :: cs => do
          let (es, rest) ← entries? fuel cs
          some ((key, v) :: es, rest)
        | '\x7d' :: rest => some ([(key, v)], rest)
        | _ => none
      | _ => none

end

/-- The value that a variable holds. -/
def read (text : String) : Json :=
  let cs := text.toList
  match value? (2 * cs.length + 2) cs with
  | some (v, []) => v
  | _ => .text text

end DeviceHub.Variable
