import DeviceHub.Url.Percent

/-!
# Forms

Names and values as one text: letters, digits and four marks as they are, a blank as a plus sign,
every other byte behind a percent sign.
-/
namespace DeviceHub.Url.Form

/-- The bytes that are written as they are. -/
def isPlain (b : UInt8) : Bool :=
  let n := b.toNat
  (48 ≤ n && n ≤ 57) || (65 ≤ n && n ≤ 90) || (97 ≤ n && n ≤ 122) || n = 42 || n = 45 || n = 46 ||
    n = 95

def byteText (b : UInt8) : List Char :=
  if isPlain b then [Char.ofNat b.toNat] else if b = 32 then ['+'] else percentByte b

def escape (s : String) : List Char := (Text.Utf8.encode s.toList).flatMap byteText

/-- The text of a form. -/
def text (entries : List (String × String)) : String :=
  String.intercalate "&" (entries.map fun e => String.ofList (escape e.1 ++ '=' :: escape e.2))

end DeviceHub.Url.Form
