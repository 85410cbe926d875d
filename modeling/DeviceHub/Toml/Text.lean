import DeviceHub.Json.Reader

/-!
# Texts in TOML

The four ways to write a text: on one line or on several, with escapes or as it stands. A reader gets
what stands behind the opening quotes and gives the text and what stands behind the closing ones.
-/
namespace DeviceHub.Toml

/-- Characters that stand for themselves: all but the controls, of which the tab may stay. -/
def isPlain (c : Char) : Bool := c = '\t' || (32 ≤ c.toNat && c.toNat ≠ 127)

def isSpace (c : Char) : Bool := c = ' ' || c = '\t'

def skipSpaces (cs : List Char) : List Char := cs.dropWhile isSpace

/-- What stands behind a line break. -/
def lineBreak? : List Char → Option (List Char)
  | '\n' :: rest => some rest
  | '\r' :: '\n' :: rest => some rest
  | _ => none

/-- The character with a number of `width` hexadecimal digits. -/
def numberedChar? (width : Nat) (cs : List Char) : Option (Char × List Char) := do
  let digits ← (cs.take width).mapM Json.Reader.hexDigit?
  if digits.length ≠ width then none
  else
    let n := digits.foldl (fun n d => 16 * n + d) 0
    if n.isValidChar then some (Char.ofNat n, cs.drop width) else none

/-- The character that stands behind a backslash. -/
def escape? : List Char → Option (Char × List Char)
  | 'b' :: cs => some ('\x08', cs)
  | 't' :: cs => some ('\t', cs)
  | 'n' :: cs => some ('\n', cs)
  | 'f' :: cs => some ('\x0c', cs)
  | 'r' :: cs => some ('\r', cs)
  | '"' :: cs => some ('"', cs)
  | '\\' :: cs => some ('\\', cs)
  | 'u' :: cs => numberedChar? 4 cs
  | 'U' :: cs => numberedChar? 8 cs
  | _ => none

/-- A text on one line with escapes. -/
def basic? : Nat → List Char → Option (List Char × List Char)
  | 0, _ => none
  | fuel + 1, cs =>
    match cs with
    | '"' :: rest => some ([], rest)
    | '\\' :: rest => do
      let (c, rest) ← escape? rest
      let (text, rest) ← basic? fuel rest
      some (c :: text, rest)
    | c :: rest =>
      if isPlain c then (basic? fuel rest).map fun (text, rest) => (c :: text, rest) else none
    | [] => none

/-- A text on one line as it stands. -/
def literal? (cs : List Char) : Option (List Char × List Char) :=
  let inText (c : Char) : Bool := isPlain c && c ≠ '\''
  match cs.dropWhile inText with
  | '\'' :: rest => some (cs.takeWhile inText, rest)
  | _ => none

/-- The closing quotes of a text on several lines; up to two more quotes before them belong to the
text. -/
def closing? (quote : Char) : List Char → Option (List Char × List Char)
  | a :: b :: c :: rest =>
    if a = quote ∧ b = quote ∧ c = quote then
      match rest with
      | d :: e :: rest' =>
        if d = quote ∧ e = quote then some ([quote, quote], rest')
        else if d = quote then some ([quote], e :: rest')
        else some ([], rest)
      | [d] => if d = quote then some ([quote], []) else some ([], [d])
      | [] => some ([], [])
    else none
  | _ => none

/-- What stands behind spaces and line breaks. -/
def skipBreaks : List Char → List Char
  | '\r' :: '\n' :: cs => skipBreaks cs
  | c :: cs => if isSpace c || c = '\n' then skipBreaks cs else c :: cs
  | [] => []

/-- What stands behind a backslash at the end of a line: the breaks and spaces there do not count. -/
def continuation? (cs : List Char) : Option (List Char) :=
  (lineBreak? (skipSpaces cs)).map skipBreaks

/-- A text on several lines, with escapes or as it stands. -/
def long? (quote : Char) (hasEscapes : Bool) : Nat → List Char → Option (List Char × List Char)
  | 0, _ => none
  | fuel + 1, cs =>
    match closing? quote cs with
    | some found => some found
    | none =>
      match lineBreak? cs with
      | some rest => (long? quote hasEscapes fuel rest).map fun (text, rest) => ('\n' :: text, rest)
      | none =>
        match cs with
        | [] => none
        | c :: rest =>
          if c = '\\' ∧ hasEscapes then
            match continuation? rest with
            | some rest => long? quote hasEscapes fuel rest
            | none => do
              let (c, rest) ← escape? rest
              let (text, rest) ← long? quote hasEscapes fuel rest
              some (c :: text, rest)
          else if isPlain c then
            (long? quote hasEscapes fuel rest).map fun (text, rest) => (c :: text, rest)
          else none

/-- A text on several lines; a line break right behind the opening quotes does not count. -/
def longText? (quote : Char) (hasEscapes : Bool) (cs : List Char) :
    Option (List Char × List Char) :=
  long? quote hasEscapes (cs.length + 1) ((lineBreak? cs).getD cs)

/-- A text of any kind, from its opening quotes on. -/
def text? : List Char → Option (String × List Char)
  | '"' :: '"' :: '"' :: cs => (longText? '"' true cs).map fun (t, r) => (String.ofList t, r)
  | '\'' :: '\'' :: '\'' :: cs => (longText? '\'' false cs).map fun (t, r) => (String.ofList t, r)
  | '"' :: cs => (basic? (cs.length + 1) cs).map fun (t, r) => (String.ofList t, r)
  | '\'' :: cs => (literal? cs).map fun (t, r) => (String.ofList t, r)
  | _ => none

end DeviceHub.Toml
