import DeviceHub.Text.Invisible

/-!
# Quoted texts in messages

A text inside a message stands in double quotes. The quote, the backslash and the common control
characters have short escapes; other characters that would not show are written by number.
-/
namespace DeviceHub.Text

/-- The lower case hexadecimal digits of a number. -/
def hex (n : Nat) : List Char := Nat.toDigits 16 n

/-- A character inside quotes. -/
def quotedChar (c : Char) : List Char :=
  if c = '"' then ['\\', '"']
  else if c = '\\' then ['\\', '\\']
  else if c = '\n' then ['\\', 'n']
  else if c = '\r' then ['\\', 'r']
  else if c = '\t' then ['\\', 't']
  else if c.toNat = 0 then ['\\', '0']
  else if c.toNat < 32 ∨ c.toNat = 127 ∨ (127 < c.toNat ∧ isInvisible c) then
    ['\\', 'u', '\x7b'] ++ hex c.toNat ++ ['\x7d']
  else [c]

/-- A text in quotes. -/
def quoted (s : String) : String := String.ofList ('"' :: s.toList.flatMap quotedChar ++ ['"'])

/-- A list of texts in quotes, in brackets. -/
def quotedList (ss : List String) : String := "[" ++ String.intercalate ", " (ss.map quoted) ++ "]"

end DeviceHub.Text
