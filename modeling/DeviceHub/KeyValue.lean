import DeviceHub.Payload
import DeviceHub.Text.Blank
import DeviceHub.Text.Pieces

/-!
# key=value texts

One entry a line, ended by a line feed that a carriage return may stand before. Blank lines count
for nothing; of one key's entries the last counts. `render` writes entries in this form.

`parse` mirrors `parse_key_value`.
-/
namespace DeviceHub.KeyValue

/-- Why a text is not a list of entries. -/
inductive Fault where
  | notAnEntry (line : String)
  | noEntries
  deriving DecidableEq

def Fault.message : Fault → String
  | .notAnEntry line => "expected key=value, got '" ++ line ++ "'"
  | .noEntries => "empty key=value body"

/-- The lines of a text without their ends. A text that ends with a line feed has no further line
after it. -/
def lines (cs : List Char) : List (List Char) :=
  let pieces := Text.pieces '\n' cs
  let kept := if pieces.getLast? = some [] then pieces.dropLast else pieces
  kept.map fun line => if line.getLast? = some '\r' then line.dropLast else line

/-- The entry of a line that is not blank. -/
def entry? (line : List Char) : Except Fault (String × String) :=
  match Text.cut '=' line with
  | some (key, value) => .ok (String.ofList (Text.trim key), String.ofList (Text.trim value))
  | none => .error (.notAnEntry (String.ofList line))

/-- The entries of a text's lines in order. -/
def entries? : List (List Char) → Except Fault (List (String × String))
  | [] => .ok []
  | line :: rest =>
    let line := Text.trim line
    if line = [] then entries? rest
    else do
      let e ← entry? line
      let es ← entries? rest
      .ok (e :: es)

/-- The dictionary of a text. -/
def parse (text : String) : Except Fault (Dict String) := do
  let es ← entries? (lines text.toList)
  if es = [] then .error .noEntries else .ok (Dict.ofList es)

/-- The line of an entry. -/
def line (e : String × String) : String := e.1 ++ "=" ++ e.2

/-- The text of some entries, one a line. -/
def render (es : List (String × String)) : String :=
  String.join (es.map fun e => line e ++ "\n")

end DeviceHub.KeyValue
