import DeviceHub.Toml.Date
import DeviceHub.Toml.Number
import DeviceHub.Toml.Table
import DeviceHub.Toml.Text

/-!
# Reading TOML

A document is a list of lines: headers of tables and entries. `Toml.read?` gives the object that it
stands for. Dates become objects with one member that holds their text.
-/
namespace DeviceHub.Toml

/-- How deep values and keys may be nested. -/
def nesting : Nat := 79

/-- The member that holds the text of a date. -/
def dateKey : String := "$__toml_private_datetime"

def isBare (c : Char) : Bool :=
  ('a' ≤ c && c ≤ 'z') || ('A' ≤ c && c ≤ 'Z') || Decimal.isDigit c || c = '_' || c = '-'

/-- One key: a text on one line, or letters, digits, underscores and hyphens as they stand. -/
def simpleKey? : List Char → Option (String × List Char)
  | '"' :: cs => (basic? (cs.length + 1) cs).map fun (t, r) => (String.ofList t, r)
  | '\'' :: cs => (literal? cs).map fun (t, r) => (String.ofList t, r)
  | cs =>
    match cs.takeWhile isBare with
    | [] => none
    | word => some (String.ofList word, cs.dropWhile isBare)

/-- Keys with dots between them, and the spaces around them. -/
def dottedKey? : Nat → List Char → Option (List String × List Char)
  | 0, _ => none
  | fuel + 1, cs => do
    let (key, cs) ← simpleKey? (skipSpaces cs)
    match skipSpaces cs with
    | '.' :: cs => do
      let (keys, cs) ← dottedKey? fuel cs
      some (key :: keys, cs)
    | cs => some ([key], cs)

def key? (cs : List Char) : Option (List String × List Char) := dottedKey? nesting cs

/-- What stands behind a comment; it ends with its line. -/
def comment? (cs : List Char) : Option (List Char) :=
  match cs.dropWhile isPlain with
  | [] => some []
  | rest => (lineBreak? rest).map fun _ => rest

/-- What stands behind spaces, line breaks and comments. -/
def skipLines? : Nat → List Char → Option (List Char)
  | 0, _ => none
  | fuel + 1, cs =>
    match skipBreaks cs with
    | '#' :: rest => (comment? rest).bind (skipLines? fuel)
    | rest => some rest

def skipAll? (cs : List Char) : Option (List Char) := skipLines? (cs.length + 1) cs

/-- A value that holds no other. -/
def scalar? (cs : List Char) : Option (Json × List Char) :=
  match cs with
  | '"' :: _ | '\'' :: _ => (text? cs).map fun (s, r) => (.text s, r)
  | 't' :: 'r' :: 'u' :: 'e' :: r => some (.bool true, r)
  | 'f' :: 'a' :: 'l' :: 's' :: 'e' :: r => some (.bool false, r)
  | _ =>
    if startsDate cs then (date? cs).map fun (s, r) => (.object [(dateKey, .text s)], r)
    else number? cs

mutual

/-- A value that may hold others `depth` deep. -/
def value? : Nat → Nat → List Char → Option (Json × List Char)
  | 0, _, _ => none
  | fuel + 1, depth, cs =>
    match cs, depth with
    | '[' :: _, 0 | '\x7b' :: _, 0 => none
    | '[' :: rest, depth + 1 =>
      (items? fuel depth rest).map fun (items, rest) => (.array items, rest)
    | '\x7b' :: rest, depth + 1 =>
      match skipSpaces rest with
      | '\x7d' :: rest => some (.object [], rest)
      | rest =>
        (pairs? fuel depth [] rest).map fun (entries, rest) => (.object (membersOf entries), rest)
    | cs, _ => scalar? cs

/-- The items of an array up to its closing bracket. -/
def items? : Nat → Nat → List Char → Option (List Json × List Char)
  | 0, _, _ => none
  | fuel + 1, depth, cs => do
    match ← skipAll? cs with
    | ']' :: rest => some ([], rest)
    | cs => do
      let (v, cs) ← value? fuel depth cs
      match ← skipAll? cs with
      | ']' :: rest => some ([v], rest)
      | ',' :: rest => do
        let (vs, rest) ← items? fuel depth rest
        some (v :: vs, rest)
      | _ => none

/-- The entries of a table on one line up to its closing brace. -/
def pairs? : Nat → Nat → Entries → List Char → Option (Entries × List Char)
  | 0, _, _, _ => none
  | fuel + 1, depth, entries, cs => do
    let (keys, cs) ← key? cs
    match cs with
    | '=' :: cs => do
      let (v, cs) ← value? fuel depth (skipSpaces cs)
      let entries ← put? keys (.value v) entries
      match skipSpaces cs with
      | '\x7d' :: rest => some (entries, rest)
      | ',' :: rest => pairs? fuel depth entries rest
      | _ => none
    | _ => none

end

/-- A line that says something. -/
inductive Line where
  | table (keys : List String)
  | next (keys : List String)
  | entry (keys : List String) (value : Json)

/-- What stands behind the end of a line, with the comment that may stand there. -/
def lineEnd? (cs : List Char) : Option (List Char) :=
  match skipSpaces cs with
  | [] => some []
  | '#' :: rest => (comment? rest).map fun rest => (lineBreak? rest).getD []
  | rest => lineBreak? rest

/-- A line that is not blank. -/
def line? (cs : List Char) : Option (Line × List Char) :=
  match cs with
  | '[' :: '[' :: cs => do
    let (keys, cs) ← key? cs
    match cs with
    | ']' :: ']' :: cs => some (.next keys, cs)
    | _ => none
  | '[' :: cs => do
    let (keys, cs) ← key? cs
    match cs with
    | ']' :: cs => some (.table keys, cs)
    | _ => none
  | cs => do
    let (keys, cs) ← key? cs
    match cs with
    | '=' :: cs =>
      let cs := skipSpaces cs
      let (v, cs) ← value? (2 * cs.length + 2) nesting cs
      some (.entry keys v, cs)
    | _ => none

/-- The lines of a document. -/
def lines? : Nat → List Char → Option (List Line)
  | 0, _ => none
  | fuel + 1, cs =>
    match lineEnd? cs with
    | some [] => some []
    | some rest => lines? fuel rest
    | none => do
      let (line, cs) ← line? (skipSpaces cs)
      let cs ← lineEnd? cs
      let rest ← lines? fuel cs
      some (line :: rest)

/-- A document that is being read. -/
structure Draft where
  root : Entries
  /-- The keys of the header that entries stand under. -/
  header : List String

namespace Draft

def empty : Draft := ⟨[], []⟩

/-- Adds a line. -/
def add? (d : Draft) : Line → Option Draft
  | .table keys => do
    let key ← keys.getLast?
    let root ← atPath? (openTable? key) keys.dropLast d.root
    some ⟨root, keys⟩
  | .next keys => do
    let key ← keys.getLast?
    let root ← atPath? (openNext? key) keys.dropLast d.root
    some ⟨root, keys⟩
  | .entry keys v => do
    let root ← atPath? (put? keys (.value v)) d.header d.root
    some { d with root := root }

end Draft

/-- The object that a document stands for. -/
def read? (text : String) : Option Json := do
  let cs := match text.toList with
    | '\uFEFF' :: cs => cs
    | cs => cs
  let lines ← lines? (cs.length + 1) cs
  let draft ← lines.foldlM Draft.add? .empty
  some (.object (membersOf draft.root))

end DeviceHub.Toml
